import Cutover.Ensemble.InMemory

set_option autoImplicit false

namespace Cutover

structure SessionSettings where
  sessionTimeout : Duration
  maxCommitTimeout : Duration
  deriving DecidableEq

/-- The current lock session and when it was put into the slot. -/
structure LockSlot where
  session : Nat
  createdAt : Nat
  deriving DecidableEq

/-- The sessions of a process: one primary session, one shared subscription session, and a slot with
the current lock session, which is replaced once it is older than its live period. The replacement
is opened before the old session is closed. -/
structure SessionManager where
  factory : SessionFactory
  settings : SessionSettings
  primary : Nat
  subscription : Nat
  lock : Option LockSlot

/-- Whether closing a handle closes its session. -/
inductive Ownership where
  | shared
  | owned
  deriving DecidableEq

namespace Ownership

def name : Ownership → String
  | .shared => "shared"
  | .owned => "owned"

end Ownership

/-- A hold on a subscription session. -/
structure Handle where
  session : Nat
  ownership : Ownership
  deriving DecidableEq

def Handle.close (h : Handle) (w : Surroundings) : Surroundings :=
  match h.ownership with
  | .shared => w
  | .owned => { w with ensemble := w.ensemble.close h.session }

namespace SessionManager

/-- The age, in milliseconds, up to which a lock session is used. -/
def livePeriod : Nat := 5 * 60 * 1000

/-- Opens the primary and the shared subscription session; if the second fails, the first is
closed. -/
def connect (factory : SessionFactory) (settings : SessionSettings) (w : Surroundings) :
    Except EnsembleError SessionManager × Surroundings :=
  match factory.openSession .primary settings.sessionTimeout w with
  | (.error e, w) => (.error e, w)
  | (.ok primary, w) =>
      match factory.openSession .subscription settings.maxCommitTimeout w with
      | (.error e, w) => (.error e, { w with ensemble := w.ensemble.close primary })
      | (.ok subscription, w) => (.ok ⟨factory, settings, primary, subscription, none⟩, w)

/-- The session in the slot, if it is not older than the live period. -/
def live? (m : SessionManager) (now : Nat) : Option Nat :=
  match m.lock with
  | none => none
  | some slot => if now - slot.createdAt ≤ livePeriod then some slot.session else none

/-- Closes the session in the slot, if there is one. -/
def closeLock (m : SessionManager) (w : Surroundings) : Surroundings :=
  match m.lock with
  | none => w
  | some slot => { w with ensemble := w.ensemble.close slot.session }

/-- The lock session, replaced first if it outlived its period. If the replacement fails the slot is
left as it is. -/
def lockSession (m : SessionManager) (w : Surroundings) :
    Except EnsembleError Nat × SessionManager × Surroundings :=
  match m.live? w.now with
  | some id => (.ok id, m, w)
  | none =>
      match m.factory.openSession .lock m.settings.sessionTimeout w with
      | (.error e, w) => (.error e, m, w)
      | (.ok id, w) => (.ok id, { m with lock := some ⟨id, w.now⟩ }, m.closeLock w)

/-- Lock sessions for calls made at the same moment: the slot serves one call at a time, in the
order of arrival. -/
def lockSessions (m : SessionManager) (w : Surroundings) :
    Nat → List (Except EnsembleError Nat) × SessionManager × Surroundings
  | 0 => ([], m, w)
  | count + 1 =>
      let (first, m, w) := m.lockSession w
      let (rest, m, w) := m.lockSessions w count
      (first :: rest, m, w)

/-- A handle on a subscription session: the shared one for exactly the greatest commit timeout, for
any other timeout a new one that the caller owns. -/
def subscribe (m : SessionManager) (timeout : Duration) (w : Surroundings) :
    Except EnsembleError Handle × Surroundings :=
  if timeout = m.settings.maxCommitTimeout then (.ok ⟨m.subscription, .shared⟩, w)
  else
    match m.factory.openSession .subscription timeout w with
    | (.error e, w) => (.error e, w)
    | (.ok id, w) => (.ok ⟨id, .owned⟩, w)

/-- Closes the lock session, the subscription session and the primary session, and empties the
slot. -/
def shutdown (m : SessionManager) (w : Surroundings) : SessionManager × Surroundings :=
  let w := m.closeLock w
  ({ m with lock := none },
    { w with ensemble := (w.ensemble.close m.subscription).close m.primary })

end SessionManager

end Cutover
