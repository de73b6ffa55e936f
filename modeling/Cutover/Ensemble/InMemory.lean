import Cutover.Ensemble.Backoff
import Cutover.Ensemble.Session

set_option autoImplicit false

namespace Cutover

inductive SessionEvent where
  | opened (id : Nat)
  | closed (id : Nat)
  deriving DecidableEq

structure Session where
  id : Nat
  params : SessionParams
  closed : Bool
  failsProbe : Bool
  deriving DecidableEq

/-- The ensemble; `sessions` are all ever opened, in the order of opening. -/
structure Ensemble where
  lastId : Nat
  attempts : Nat
  unreachable : Bool
  failingOpens : Nat
  failingProbes : Nat
  sessions : List Session
  log : List SessionEvent
  deriving DecidableEq

namespace Ensemble

def empty : Ensemble := ⟨0, 0, false, 0, 0, [], []⟩

instance : Inhabited Ensemble := ⟨empty⟩

def session? (e : Ensemble) (id : Nat) : Option Session := e.sessions.find? (·.id = id)

def openSessions (e : Ensemble) : List Session := e.sessions.filter (!·.closed)

/-- Opens a session. An unreachable ensemble refuses without using up a failing open. -/
def openSession (e : Ensemble) (params : SessionParams) : Except SessionError Nat × Ensemble :=
  let e := { e with attempts := e.attempts + 1 }
  let refusal := SessionError.connect params.servers "mock ensemble unreachable"
  if e.unreachable then (.error refusal, e)
  else if 0 < e.failingOpens then
    (.error refusal, { e with failingOpens := e.failingOpens - 1 })
  else
    let id := e.lastId + 1
    let fresh : Session := ⟨id, params, false, decide (0 < e.failingProbes)⟩
    (.ok id,
      { e with
        lastId := id
        failingProbes := e.failingProbes - 1
        sessions := e.sessions ++ [fresh]
        log := e.log ++ [.opened id] })

def probe (e : Ensemble) (id : Nat) : Except SessionError Unit :=
  match e.session? id with
  | none => .error (.closed id)
  | some s =>
      if s.closed then .error (.closed id)
      else if s.failsProbe then .error (.unusable id "mock probe failure")
      else .ok ()

/-- Closes a session; closing it again changes nothing. -/
def close (e : Ensemble) (id : Nat) : Ensemble :=
  match e.session? id with
  | none => e
  | some s =>
      if s.closed then e
      else
        { e with
          sessions := e.sessions.map fun s => if s.id = id then { s with closed := true } else s
          log := e.log ++ [.closed id] }

end Ensemble

/-- An ensemble and the time that passes while it is used. `chance` decides the waits to come; time
is in milliseconds. -/
structure Surroundings where
  ensemble : Ensemble
  now : Nat
  chance : Nat → Nat
  drawn : Nat

namespace Surroundings

def advance (w : Surroundings) (ms : Nat) : Surroundings := { w with now := w.now + ms }

def backOff (w : Surroundings) (retry : Nat) : Surroundings :=
  { w with now := w.now + Backoff.wait retry (w.chance w.drawn), drawn := w.drawn + 1 }

/-- One attempt: a session that opens but fails its probe is closed again. -/
def attempt (w : Surroundings) (params : SessionParams) : Except SessionError Nat × Surroundings :=
  match w.ensemble.openSession params with
  | (.error refusal, e) => (.error refusal, { w with ensemble := e })
  | (.ok id, e) =>
      match e.probe id with
      | .ok () => (.ok id, { w with ensemble := e })
      | .error fault => (.error fault, { w with ensemble := e.close id })

/-- Attempts until one succeeds, waiting before each retry; `left` retries remain. -/
def attempts (params : SessionParams) : Nat → Surroundings → Except SessionError Nat × Surroundings
  | 0, w => w.attempt params
  | left + 1, w =>
      match w.attempt params with
      | (.ok id, w) => (.ok id, w)
      | (.error _, w) => attempts params left (w.backOff (Backoff.retries - (left + 1)))

end Surroundings

/-- Opens a session that serves requests, with bounded retries. -/
def SessionFactory.openSession (f : SessionFactory) (kind : SessionKind) (sessionTimeout : Duration)
    (w : Surroundings) : Except EnsembleError Nat × Surroundings :=
  if f.connection.servers = [] then
    (.error (.unavailable ("ensemble " ++ f.connection.text ++ " has no addresses")), w)
  else
    match Surroundings.attempts (f.params kind sessionTimeout) Backoff.retries w with
    | (.ok id, w) => (.ok id, w)
    | (.error fault, w) =>
        (.error (.unavailable ("failed to create " ++ kind.name ++ " session against " ++
          f.connection.text ++ ": " ++ fault.message)), w)

end Cutover
