import Cutover.Text.Decimal

set_option autoImplicit false

namespace Cutover

/-- A floating-point number; a finite one is `mantissa * 2^exponent` with its sign, where the
mantissa is below `2^53` and the exponent at least -1074. -/
inductive Double where
  | nan
  | infinite (negative : Bool)
  | finite (negative : Bool) (mantissa : Nat) (exponent : Int)
  deriving DecidableEq, Inhabited

namespace Double

open Cutover.Text

/-- What bounds a mantissa: `2^53`. -/
def mantissaLimit : Nat := 1 <<< 53

/-- The quotient rounded to the nearest integer, a tie to the even one. -/
def roundEven (numerator denominator : Nat) : Nat :=
  let quotient := numerator / denominator
  let twice := 2 * (numerator % denominator)
  if denominator < twice ∨ (twice = denominator ∧ quotient % 2 = 1) then quotient + 1 else quotient

/-- The exponent of the numbers next to a positive quotient. -/
def unitExponent (numerator denominator : Nat) : Int :=
  let low : Int := (Nat.log2 numerator : Int) - (Nat.log2 denominator : Int) - 53
  let reaches := (numerator <<< (-low).toNat) / (denominator <<< low.toNat) < mantissaLimit
  max (if reaches then low else low + 1) (-1074)

def nearest (negative : Bool) (numerator denominator : Nat) : Double :=
  if numerator = 0 then .finite negative 0 (-1074)
  else
    let exponent := unitExponent numerator denominator
    let mantissa :=
      roundEven (numerator <<< (-exponent).toNat) (denominator <<< exponent.toNat)
    let (mantissa, exponent) :=
      if mantissa = mantissaLimit then (mantissaLimit / 2, exponent + 1) else (mantissa, exponent)
    if 971 < exponent then .infinite negative else .finite negative mantissa exponent

/-- The number nearest to `significand * 10 ^ scale`. -/
def ofDecimal (negative : Bool) (significand : Nat) (scale : Int) : Double :=
  let magnitude := (digits significand).length + scale
  if significand = 0 ∨ magnitude < -400 then .finite negative 0 (-1074)
  else if 400 < magnitude then .infinite negative
  else nearest negative (significand * tenTo scale.toNat) (tenTo (-scale).toNat)

/-- Digits with a point somewhere among them or none, and after them a power of ten. -/
def magnitude? (negative : Bool) (text : List Char) : Option Double :=
  let whole := text.takeWhile isDigit
  let afterWhole := text.dropWhile isDigit
  let (fraction, rest) :=
    match afterWhole with
    | '.' :: more => (more.takeWhile isDigit, more.dropWhile isDigit)
    | _ => ([], afterWhole)
  let power :=
    match rest with
    | [] => some 0
    | mark :: more =>
        if mark = 'e' ∨ mark = 'E' then
          match more with
          | '-' :: unsigned => (number? unsigned).map fun n => -(n : Int)
          | '+' :: unsigned => (number? unsigned).map fun n => (n : Int)
          | unsigned => (number? unsigned).map fun n => (n : Int)
        else none
  if whole ++ fraction = [] then none
  else power.map fun p => ofDecimal negative (value (whole ++ fraction)) (p - fraction.length)

/-- Reads a decimal with an optional sign, or the name of an infinity or of NaN in any case. -/
def parse? (text : List Char) : Option Double :=
  let (negative, rest) :=
    match text with
    | '-' :: rest => (true, rest)
    | '+' :: rest => (false, rest)
    | _ => (false, text)
  let name := String.ofList (rest.map Char.toLower)
  if name = "inf" ∨ name = "infinity" then some (.infinite negative)
  else if name = "nan" then some .nan
  else magnitude? negative rest

def atLeastPower (num den : Nat) (power : Int) : Bool :=
  den * tenTo power.toNat ≤ num * tenTo (-power).toNat

/-- The power of ten of the first digit of a positive quotient, found downwards from a bound. -/
def leadingPower (num den : Nat) : Nat → Int → Int
  | 0, power => power
  | fuel + 1, power =>
      if atLeastPower num den power then power else leadingPower num den fuel (power - 1)

/-- The point nearest to `num / den` on the grid of the multiples of `10^grid` that lies between
the bounds `low / den` and `high / den`; of the two neighbours the nearer one, in a tie the even
one. -/
def onGrid? (num low high den : Nat) (inclusive : Bool) (grid : Int) : Option Nat :=
  let up := tenTo (-grid).toNat
  let unit := den * tenTo grid.toNat
  let inside (n : Nat) : Bool :=
    if inclusive then low * up ≤ n * unit && n * unit ≤ high * up
    else low * up < n * unit && n * unit < high * up
  let below := num * up / unit
  let nearer := roundEven (num * up) unit
  let other := if nearer = below then below + 1 else below
  if inside nearer then some nearer else if inside other then some other else none

/-- The coarsest grid with a point between the bounds, and that point. -/
def shortestFrom (num low high den : Nat) (inclusive : Bool) : Nat → Int → Nat × Int
  | 0, grid => (num * tenTo (-grid).toNat / (den * tenTo grid.toNat), grid)
  | fuel + 1, grid =>
      match onGrid? num low high den inclusive grid with
      | some n => (n, grid)
      | none => shortestFrom num low high den inclusive fuel (grid - 1)

/-- The fewest digits that read back as a positive number, and the power of ten of the last. -/
def shortest (mantissa : Nat) (exponent : Int) : Nat × Int :=
  let unit := exponent - 2
  let den := 1 <<< (-unit).toNat
  let num := (4 * mantissa) <<< unit.toNat
  let gap := if mantissa = mantissaLimit / 2 ∧ -1074 < exponent then 1 else 2
  let low := (4 * mantissa - gap) <<< unit.toNat
  let high := (4 * mantissa + 2) <<< unit.toNat
  let first := leadingPower num den 700 310
  shortestFrom num low high den (mantissa % 2 = 0) 18 (first + 1)

/-- Digits with the point where the power of ten of the last digit puts it, never an exponent. -/
def positional (significand : Nat) (power : Int) : List Char :=
  let written := digits significand
  if 0 ≤ power then written ++ List.replicate power.toNat '0'
  else
    let places := (-power).toNat
    let filled := List.replicate (places + 1 - written.length) '0' ++ written
    filled.take (filled.length - places) ++ '.' :: filled.drop (filled.length - places)

/-- The shortest text that reads back as the number. -/
def text : Double → List Char
  | .nan => ['N', 'a', 'N']
  | .infinite negative => if negative then ['-', 'i', 'n', 'f'] else ['i', 'n', 'f']
  | .finite negative mantissa exponent =>
      let magnitude :=
        if mantissa = 0 then ['0']
        else
          let (significand, power) := shortest mantissa exponent
          positional significand power
      if negative then '-' :: magnitude else magnitude

/-- The nearest integer, a half away from zero, brought into the range of 64 unsigned bits. -/
def toUnsigned : Double → Nat
  | .nan => 0
  | .infinite negative => if negative then 0 else UInt64.size - 1
  | .finite negative mantissa exponent =>
      if negative then 0
      else
        let num := mantissa <<< exponent.toNat
        let den := 1 <<< (-exponent).toNat
        min ((2 * num + den) / (2 * den)) (UInt64.size - 1)

end Double

end Cutover
