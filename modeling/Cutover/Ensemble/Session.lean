import Cutover.Ensemble.Error
import Cutover.Time.Duration

set_option autoImplicit false

namespace Cutover

/-- What a session is for: primary sessions live as long as the process, lock sessions are replaced
from time to time, subscription sessions carry the state of subscriptions. -/
inductive SessionKind where
  | primary
  | lock
  | subscription
  deriving DecidableEq, Inhabited

namespace SessionKind

def name : SessionKind → String
  | .primary => "primary"
  | .lock => "lock"
  | .subscription => "subscription"

def ofName? (text : String) : Option SessionKind :=
  if text = "primary" then some .primary
  else if text = "lock" then some .lock
  else if text = "subscription" then some .subscription
  else none

end SessionKind

/-- Everything needed to open one session. -/
structure SessionParams where
  kind : SessionKind
  servers : String
  root : String
  sessionTimeout : Duration
  connectionTimeout : Duration
  deriving DecidableEq

/-- Opens sessions against one ensemble with a fixed list of servers. -/
structure SessionFactory where
  connection : Connection
  connectionTimeout : Duration
  fixedServers : connection.kind = .zookeeper

namespace SessionFactory

def create (connection : Connection) (connectionTimeout : Duration) :
    Except EnsembleError SessionFactory :=
  if fixed : connection.kind = .zookeeper then .ok ⟨connection, connectionTimeout, fixed⟩
  else .error (.unsupportedKind connection.kind)

def params (f : SessionFactory) (kind : SessionKind) (sessionTimeout : Duration) :
    SessionParams where
  kind := kind
  servers := String.ofList f.connection.serversText
  root := String.ofList f.connection.root
  sessionTimeout := sessionTimeout
  connectionTimeout := f.connectionTimeout

end SessionFactory

end Cutover
