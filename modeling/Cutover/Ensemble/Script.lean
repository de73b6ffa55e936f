import Cutover.Data.Table
import Cutover.Ensemble.Connection.Reader
import Cutover.Ensemble.Manager

set_option autoImplicit false

namespace Cutover

inductive SessionStep where
  | setUnreachable (value : Bool)
  | failOpens (count : Nat)
  | failProbes (count : Nat)
  | connect
  | create (kind : SessionKind) (timeout : Duration)
  | primary
  | lock
  | lockMany (count : Nat)
  | subscribe (timeout : Duration) (name : String)
  | inspectHandle (name : String)
  | closeHandle (name : String)
  | probe (id : Nat)
  | closeSession (id : Nat)
  | inspectSession (id : Nat)
  | advance (ms : Nat)
  | livePeriod
  | shutdown

/-- What a step tells; `unknownName` and `notConnected` refuse it without any effect. -/
inductive SessionAnswer where
  | nothing
  | unknownName
  | notConnected
  | failed (error : EnsembleError)
  | unusable (error : SessionError)
  | connected (primary : Nat) (settings : SessionSettings)
  | session (id : Nat)
  | locks (results : List (Except EnsembleError Nat))
  | handle (h : Handle)
  | handleClosed (session : Nat)
  | milliseconds (n : Nat)

/-- The state of a session script. -/
structure SessionScript where
  connection : Connection
  connectionTimeout : Duration
  settings : SessionSettings
  surroundings : Surroundings
  manager : Option SessionManager
  handles : Table String Handle

namespace SessionScript

def start (connection : Connection) (connectionTimeout : Duration) (settings : SessionSettings)
    (chance : Nat → Nat) : SessionScript :=
  ⟨connection, connectionTimeout, settings, ⟨.empty, 0, chance, 0⟩, none, .empty⟩

def changeEnsemble (s : SessionScript) (change : Ensemble → Ensemble) : SessionScript :=
  { s with
    surroundings := { s.surroundings with ensemble := change s.surroundings.ensemble } }

def withManager (s : SessionScript) (run : SessionManager → SessionAnswer × SessionScript) :
    SessionAnswer × SessionScript :=
  match s.manager with
  | none => (.notConnected, s)
  | some m => run m

/-- Runs a step on a session that the ensemble has opened. -/
def withSession (s : SessionScript) (id : Nat) (run : SessionAnswer × SessionScript) :
    SessionAnswer × SessionScript :=
  match s.surroundings.ensemble.session? id with
  | none => (.unknownName, s)
  | some _ => run

def connect (s : SessionScript) : SessionAnswer × SessionScript :=
  match SessionFactory.create s.connection s.connectionTimeout with
  | .error e => (.failed e, s)
  | .ok factory =>
      match SessionManager.connect factory s.settings s.surroundings with
      | (.error e, w) => (.failed e, { s with surroundings := w })
      | (.ok m, w) =>
          (.connected m.primary m.settings, { s with surroundings := w, manager := some m })

def create (s : SessionScript) (kind : SessionKind) (timeout : Duration) :
    SessionAnswer × SessionScript :=
  match SessionFactory.create s.connection s.connectionTimeout with
  | .error e => (.failed e, s)
  | .ok factory =>
      match factory.openSession kind timeout s.surroundings with
      | (.error e, w) => (.failed e, { s with surroundings := w })
      | (.ok id, w) => (.session id, { s with surroundings := w })

def lock (s : SessionScript) : SessionAnswer × SessionScript :=
  s.withManager fun m =>
    match m.lockSession s.surroundings with
    | (.error e, m, w) => (.failed e, { s with surroundings := w, manager := some m })
    | (.ok id, m, w) => (.session id, { s with surroundings := w, manager := some m })

def lockMany (s : SessionScript) (count : Nat) : SessionAnswer × SessionScript :=
  s.withManager fun m =>
    let (results, m, w) := m.lockSessions s.surroundings count
    (.locks results, { s with surroundings := w, manager := some m })

/-- Keeps a handle under a name; a handle kept there before is closed. -/
def keepHandle (s : SessionScript) (name : String) (h : Handle) : SessionScript :=
  let w :=
    match s.handles.get? name with
    | none => s.surroundings
    | some old => old.close s.surroundings
  { s with surroundings := w, handles := s.handles.insert name h }

def subscribe (s : SessionScript) (timeout : Duration) (name : String) :
    SessionAnswer × SessionScript :=
  s.withManager fun m =>
    match m.subscribe timeout s.surroundings with
    | (.error e, w) => (.failed e, { s with surroundings := w })
    | (.ok h, w) => (.handle h, { s with surroundings := w }.keepHandle name h)

def closeHandle (s : SessionScript) (name : String) : SessionAnswer × SessionScript :=
  match s.handles.get? name with
  | none => (.unknownName, s)
  | some h =>
      (.handleClosed h.session,
        { s with surroundings := h.close s.surroundings, handles := s.handles.erase name })

def shutdown (s : SessionScript) : SessionAnswer × SessionScript :=
  s.withManager fun m =>
    let (m, w) := m.shutdown s.surroundings
    (.nothing, { s with surroundings := w, manager := some m })

def run (s : SessionScript) : SessionStep → SessionAnswer × SessionScript
  | .setUnreachable value => (.nothing, s.changeEnsemble fun e => { e with unreachable := value })
  | .failOpens count => (.nothing, s.changeEnsemble fun e => { e with failingOpens := count })
  | .failProbes count => (.nothing, s.changeEnsemble fun e => { e with failingProbes := count })
  | .connect => s.connect
  | .create kind timeout => s.create kind timeout
  | .primary => s.withManager fun m => (.session m.primary, s)
  | .lock => s.lock
  | .lockMany count => s.lockMany count
  | .subscribe timeout name => s.subscribe timeout name
  | .inspectHandle name =>
      match s.handles.get? name with
      | none => (.unknownName, s)
      | some h => (.handle h, s)
  | .closeHandle name => s.closeHandle name
  | .probe id =>
      s.withSession id <|
        match s.surroundings.ensemble.probe id with
        | .ok () => (.nothing, s)
        | .error e => (.unusable e, s)
  | .closeSession id => s.withSession id (.nothing, s.changeEnsemble (·.close id))
  | .inspectSession id => s.withSession id (.session id, s)
  | .advance ms => (.nothing, { s with surroundings := s.surroundings.advance ms })
  | .livePeriod => (.milliseconds SessionManager.livePeriod, s)
  | .shutdown => s.shutdown

end SessionScript

end Cutover
