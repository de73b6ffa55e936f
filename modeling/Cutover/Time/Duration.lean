import Cutover.Text.Decimal

set_option autoImplicit false

namespace Cutover

structure Duration where
  nanos : Nat
  deriving DecidableEq, Inhabited

namespace Duration

open Cutover.Text

def ofMillis (n : Nat) : Duration := ⟨n * 1000000⟩

def ofSeconds (n : Nat) : Duration := ⟨n * 1000000000⟩

def millis (d : Duration) : Nat := d.nanos / 1000000

/-- A quotient by `tenTo places` as an exact decimal without trailing zeros. -/
def fixedPoint (places n : Nat) : List Char :=
  let fraction := ((padded places (n % tenTo places)).reverse.dropWhile (· = '0')).reverse
  digits (n / tenTo places) ++ if n % tenTo places = 0 then [] else '.' :: fraction

/-- The length in the largest unit of which it is at least one; zero is in nanoseconds. -/
def text (d : Duration) : String :=
  if 1000000000 ≤ d.nanos then String.ofList (fixedPoint 9 d.nanos) ++ "s"
  else if 1000000 ≤ d.nanos then String.ofList (fixedPoint 6 d.nanos) ++ "ms"
  else if 1000 ≤ d.nanos then String.ofList (fixedPoint 3 d.nanos) ++ "µs"
  else String.ofList (digits d.nanos) ++ "ns"

end Duration

end Cutover
