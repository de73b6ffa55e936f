import Cutover.Text.Decimal
import Cutover.Text.Cut
import Cutover.Text.Split

set_option autoImplicit false

namespace Cutover

/-- What stands behind a connection: a fixed list of servers, or one discovered at run time. -/
inductive EnsembleKind where
  | zookeeper
  | exhibitor
  deriving DecidableEq, Inhabited

namespace EnsembleKind

def name : EnsembleKind → String
  | .zookeeper => "zookeeper"
  | .exhibitor => "exhibitor"

def ofName? (text : String) : Option EnsembleKind :=
  if text = "zookeeper" then some .zookeeper
  else if text = "exhibitor" then some .exhibitor
  else none

end EnsembleKind

structure Server where
  address : String
  port : UInt16
  deriving DecidableEq, Inhabited

/-- A connection; without a path its sessions are rooted at `/`. -/
structure Connection where
  kind : EnsembleKind
  servers : List Server
  path : Option String
  deriving DecidableEq, Inhabited

namespace Connection

open Cutover.Text

def serverText (s : Server) : List Char := s.address.toList ++ ':' :: digits s.port.toNat

def serversText (c : Connection) : List Char := joined ',' (c.servers.map serverText)

/-- A path with one slash in front and none at the end; empty for the root. -/
def normalPath (path : Option (List Char)) : List Char :=
  match path with
  | none => []
  | some [] => []
  | some ('/' :: rest) => trimEnd '/' ('/' :: rest)
  | some relative => '/' :: trimEnd '/' relative

/-- The path under which the sessions are rooted. -/
def root (c : Connection) : List Char := normalPath (c.path.map String.toList)

def mark : List Char := [':', '/', '/']

def write (c : Connection) : List Char :=
  c.kind.name.toList ++ mark ++ c.serversText ++ c.root

def text (c : Connection) : String := String.ofList c.write

end Connection

end Cutover
