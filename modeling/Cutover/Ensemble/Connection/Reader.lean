import Cutover.Ensemble.Error

set_option autoImplicit false

namespace Cutover.Connection

open Cutover.Text

/-- Reads a server: the port stands after the last colon. -/
def readServer (piece : List Char) : Except ConnectionFault Server :=
  match cutLast? ':' piece with
  | none => .error (.missingPort (String.ofList piece))
  | some (address, port) =>
      match unsigned? 65535 port with
      | none => .error (.invalidPort (String.ofList piece))
      | some n =>
          if address = [] then .error (.missingAddress (String.ofList piece))
          else .ok ⟨String.ofList address, UInt16.ofNat n⟩

/-- Reads the servers from left to right, up to the first fault. -/
def readServers : List (List Char) → Except ConnectionFault (List Server)
  | [] => .ok []
  | piece :: rest => do
      let server ← readServer piece
      let servers ← readServers rest
      return server :: servers

def readKind (name : List Char) : Except ConnectionFault EnsembleKind :=
  match EnsembleKind.ofName? (String.ofList name) with
  | some kind => .ok kind
  | none => .error (.unknownKind (String.ofList name))

def read (text : List Char) : Except ConnectionFault Connection :=
  match cutAt? mark text with
  | none => .error .missingKind
  | some (name, rest) => do
      let kind ← readKind name
      let hosts := rest.takeWhile (· ≠ '/')
      let tail := rest.dropWhile (· ≠ '/')
      let servers ← readServers ((pieces ',' hosts).filter (· ≠ []))
      return ⟨kind, servers, if tail = [] then none else some (String.ofList tail)⟩

/-- Reads a connection; a fault names the whole text. -/
def parse (text : String) : Except EnsembleError Connection :=
  match read text.toList with
  | .ok connection => .ok connection
  | .error fault => .error (.invalidConnection text fault.message)

end Cutover.Connection
