import Cutover.Data.Table.Lemmas
import Cutover.Fence.Local
import Cutover.Proofs.Fence.Lock
import Mathlib.Data.Multiset.Filter
import Mathlib.Data.Multiset.UnionInter

set_option autoImplicit false

namespace Cutover

/-- What somebody does with a lock: waits for it, publishes under it, or updates a timeline. -/
inductive FenceRole where
  | waiting (mode : LockMode)
  | publishing
  | updating
  deriving DecidableEq

namespace FenceRole

def mode : FenceRole → LockMode
  | .waiting mode => mode
  | .publishing => .shared
  | .updating => .exclusive

/-- Whether the lock is known to be granted; it can also be granted to somebody who waits. -/
def knowsGrant : FenceRole → Bool
  | .waiting _ => false
  | .publishing => true
  | .updating => true

theorem waiting_ne_updating (mode : LockMode) : waiting mode ≠ updating := nofun

theorem publishing_ne_updating : publishing ≠ updating := nofun

end FenceRole

/-- Somebody who uses the lock of an event type. -/
structure FenceUser where
  eventType : String
  ticket : Ticket
  role : FenceRole
  deriving DecidableEq

namespace FenceUser

def number (u : FenceUser) : Nat := u.ticket.request

def request (u : FenceUser) : LockRequest := ⟨u.number, u.role.mode⟩

/-- The requests of the users of an event type. -/
def requestsOf (users : Multiset FenceUser) (eventType : String) : Multiset LockRequest :=
  (users.filter fun u => u.eventType = eventType).map request

variable {users : Multiset FenceUser}

theorem requestsOf_cons_self (u : FenceUser) :
    requestsOf (u ::ₘ users) u.eventType = u.request ::ₘ requestsOf users u.eventType := by
  have inside := Multiset.filter_cons_of_pos (p := (·.eventType = u.eventType)) (a := u) users rfl
  rw [requestsOf, inside, Multiset.map_cons, requestsOf]

theorem requestsOf_cons_of_ne {u : FenceUser} {e : String} (apart : e ≠ u.eventType) :
    requestsOf (u ::ₘ users) e = requestsOf users e := by
  have outside :=
    Multiset.filter_cons_of_neg (p := (·.eventType = e)) (a := u) users (Ne.symm apart)
  rw [requestsOf, outside, requestsOf]

theorem mem_requestsOf {e : String} {r : LockRequest} :
    r ∈ requestsOf users e ↔ ∃ u ∈ users, u.eventType = e ∧ u.request = r := by
  rw [requestsOf, Multiset.mem_map]
  constructor
  · rintro ⟨u, filtered, same⟩
    obtain ⟨inside, named⟩ := Multiset.mem_filter.1 filtered
    exact ⟨u, inside, named, same⟩
  · rintro ⟨u, inside, named, same⟩
    exact ⟨u, Multiset.mem_filter.2 ⟨inside, named⟩, same⟩

end FenceUser

namespace LocalFences

/-- The lock of an event type; one that is not registered is idle. -/
def lockOf (f : LocalFences) (eventType : String) : Lock :=
  ((f.registry.get? eventType).bind f.locks.get?).getD .idle

theorem lockOf_of_registered {f : LocalFences} {eventType : String} {n : Nat} {l : Lock}
    (registered : f.registry.get? eventType = some n) (found : f.locks.get? n = some l) :
    f.lockOf eventType = l := by
  rw [lockOf, registered, Option.bind_some, found, Option.getD_some]

theorem lockOf_of_unregistered {f : LocalFences} {eventType : String}
    (unregistered : f.registry.get? eventType = none) : f.lockOf eventType = .idle := by
  rw [lockOf, unregistered, Option.bind_none, Option.getD_none]

/-- The locks are kept in order: each event type has at most one, each lock that is kept belongs to
an event type, and all are fair. -/
structure Orderly (f : LocalFences) : Prop where
  registered : ∀ {e n}, f.registry.get? e = some n → ∃ l, f.locks.get? n = some l ∧ l.Fair
  single : ∀ {e e' n}, f.registry.get? e = some n → f.registry.get? e' = some n → e = e'
  kept : ∀ {n l}, f.locks.get? n = some l → ∃ e, f.registry.get? e = some n
  numbered : ∀ {e n}, f.registry.get? e = some n → n ≤ f.lastLock

/-- The locks have exactly the requests of these users, each for the lock of its event type. -/
structure Accounts (f : LocalFences) (users : Multiset FenceUser) : Prop where
  ticketed : ∀ u ∈ users, f.registry.get? u.eventType = some u.ticket.lock
  requests : ∀ e, ((f.lockOf e).requests : Multiset LockRequest) = FenceUser.requestsOf users e
  distinct : (users.map FenceUser.number).Nodup
  drawn : ∀ u ∈ users, u.number ≤ f.lastRequest
  granted : ∀ u ∈ users, u.role.knowsGrant = true →
    (f.lockOf u.eventType).isGranted u.number = true

/-- The locks are in order and have exactly the requests of these users, among whom those who update
are the recorded ones. -/
structure Sound (f : LocalFences) (users : Multiset FenceUser) : Prop where
  orderly : f.Orderly
  accounts : f.Accounts users
  updates : ∀ {e t}, f.held.get? e = some t ↔ ⟨e, t, .updating⟩ ∈ users

theorem sound_empty : empty.Sound 0 where
  orderly := ⟨nofun, nofun, nofun, nofun⟩
  accounts :=
    { ticketed := nofun
      requests := fun _ => rfl
      distinct := Multiset.nodup_zero
      drawn := nofun
      granted := nofun }
  updates := ⟨nofun, nofun⟩

variable {f : LocalFences} {users : Multiset FenceUser}

theorem Orderly.fair (orderly : f.Orderly) (e : String) : (f.lockOf e).Fair := by
  cases registered : f.registry.get? e with
  | none =>
    rw [lockOf_of_unregistered registered]
    exact Lock.fair_idle
  | some n =>
    obtain ⟨l, found, fair⟩ := orderly.registered registered
    rw [lockOf_of_registered registered found]
    exact fair

theorem Orderly.erase_held (orderly : f.Orderly) (e : String) :
    ({ f with held := f.held.erase e } : LocalFences).Orderly :=
  ⟨orderly.registered, orderly.single, orderly.kept, orderly.numbered⟩

theorem Accounts.user_of_mem (accounts : f.Accounts users) {e : String} {r : LockRequest}
    (member : r ∈ (f.lockOf e).requests) : ∃ u ∈ users, u.eventType = e ∧ u.request = r := by
  have listed : r ∈ ((f.lockOf e).requests : Multiset LockRequest) := member
  rw [accounts.requests e] at listed
  exact FenceUser.mem_requestsOf.1 listed

theorem Accounts.request_mem (accounts : f.Accounts users) {u : FenceUser} (member : u ∈ users) :
    u.request ∈ (f.lockOf u.eventType).requests := by
  rw [← Multiset.mem_coe, accounts.requests]
  exact FenceUser.mem_requestsOf.2 ⟨u, member, rfl, rfl⟩

theorem Accounts.eq_of_number (accounts : f.Accounts users) {u v : FenceUser} (hu : u ∈ users)
    (hv : v ∈ users) (same : u.number = v.number) : u = v :=
  Multiset.inj_on_of_nodup_map accounts.distinct u hu v hv same

theorem Accounts.granted_mem (accounts : f.Accounts users) {u : FenceUser} (member : u ∈ users)
    (granted : (f.lockOf u.eventType).isGranted u.number = true) :
    u.request ∈ (f.lockOf u.eventType).holders := by
  obtain ⟨r, holds, same⟩ := (Lock.isGranted_iff _ _).1 granted
  obtain ⟨v, inside, _, asked⟩ := accounts.user_of_mem (List.mem_append_left _ holds)
  have number : v.number = u.number := by
    rw [← same, ← asked]
    rfl
  obtain rfl := accounts.eq_of_number inside member number
  rw [asked]
  exact holds

/-- Somebody to whom a lock is granted exclusively is the only one to whom it is granted. -/
theorem Sound.exclusive_alone (sound : f.Sound users) {u v : FenceUser} (hu : u ∈ users)
    (hv : v ∈ users) (together : v.eventType = u.eventType)
    (exclusive : u.role.mode = .exclusive)
    (granted : (f.lockOf u.eventType).isGranted u.number = true)
    (other : (f.lockOf v.eventType).isGranted v.number = true) : v = u := by
  have holds := sound.accounts.granted_mem hu granted
  have otherHolds := sound.accounts.granted_mem hv other
  rw [together] at otherHolds
  have compatible := (sound.orderly.fair u.eventType).compatible
  have same := compatible.exclusive_alone holds exclusive otherHolds
  exact sound.accounts.eq_of_number hv hu (congrArg LockRequest.number same)

theorem Sound.update_alone (sound : f.Sound users) {e : String} {t : Ticket} {v : FenceUser}
    (held : f.held.get? e = some t) (hv : v ∈ users) (named : v.eventType = e)
    (other : (f.lockOf v.eventType).isGranted v.number = true) : v = ⟨e, t, .updating⟩ :=
  have updating := sound.updates.1 held
  sound.exclusive_alone updating hv named rfl (sound.accounts.granted _ updating rfl) other

theorem Sound.publisher_absent (sound : f.Sound users) {e : String} {t t' : Ticket}
    (updating : ⟨e, t, .updating⟩ ∈ users) : ⟨e, t', .publishing⟩ ∉ users := by
  intro publishing
  have granted := sound.accounts.granted _ publishing rfl
  have same := sound.update_alone (sound.updates.2 updating) publishing rfl granted
  exact nomatch congrArg FenceUser.role same

theorem Sound.isGranted_eq (sound : f.Sound users) {u : FenceUser} (member : u ∈ users) :
    f.isGranted u.ticket = (f.lockOf u.eventType).isGranted u.number := by
  have ticketed := sound.accounts.ticketed u member
  obtain ⟨l, found, _⟩ := sound.orderly.registered ticketed
  rw [lockOf_of_registered ticketed found, isGranted, found]
  rfl

end LocalFences

end Cutover
