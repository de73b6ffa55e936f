import Cutover.Proofs.Fence.Users

set_option autoImplicit false

namespace Cutover.LocalFences

variable {f : LocalFences} {users : Multiset FenceUser}

theorem Orderly.modify (orderly : f.Orderly) {n : Nat} {change : Lock → Lock}
    (fair : ∀ l : Lock, l.Fair → (change l).Fair) (lastRequest : Nat) :
    ({ f with locks := f.locks.modify n change, lastRequest := lastRequest }).Orderly where
  registered := by
    intro e m registered
    obtain ⟨l, found, isFair⟩ := orderly.registered registered
    by_cases same : m = n
    · subst same
      exact ⟨change l, Table.get?_modify_of_get? change found, fair l isFair⟩
    · exact ⟨l, by rw [Table.get?_modify_of_ne _ _ same, found], isFair⟩
  single := orderly.single
  kept := by
    intro m l found
    by_cases same : m = n
    · subst same
      rw [Table.get?_modify_self, Option.map_eq_some_iff] at found
      obtain ⟨old, was, _⟩ := found
      exact orderly.kept was
    · rw [Table.get?_modify_of_ne _ _ same] at found
      exact orderly.kept found
  numbered := orderly.numbered

theorem Orderly.lockOf_modify (orderly : f.Orderly) {e : String} {n : Nat}
    (registered : f.registry.get? e = some n) (change : Lock → Lock) (lastRequest : Nat) :
    ({ f with locks := f.locks.modify n change, lastRequest := lastRequest }).lockOf e =
      change (f.lockOf e) := by
  obtain ⟨l, found, _⟩ := orderly.registered registered
  rw [lockOf_of_registered registered found]
  exact lockOf_of_registered registered (Table.get?_modify_of_get? change found)

theorem Orderly.lockOf_modify_of_ne (orderly : f.Orderly) {e e' : String} {n : Nat}
    (registered : f.registry.get? e = some n) (apart : e' ≠ e) (change : Lock → Lock)
    (lastRequest : Nat) :
    ({ f with locks := f.locks.modify n change, lastRequest := lastRequest }).lockOf e' =
      f.lockOf e' := by
  cases other : f.registry.get? e' with
  | none =>
    rw [lockOf_of_unregistered other]
    exact lockOf_of_unregistered other
  | some m =>
    obtain ⟨l, found, _⟩ := orderly.registered other
    have distinct : m ≠ n := by
      rintro rfl
      exact apart (orderly.single other registered)
    have kept : (f.locks.modify n change).get? m = some l := by
      rw [Table.get?_modify_of_ne _ _ distinct, found]
    rw [lockOf_of_registered other found]
    exact lockOf_of_registered other kept

/-- The fences with a new lock for an event type. -/
def register (f : LocalFences) (e : String) : LocalFences :=
  { f with
    locks := f.locks.insert (f.lastLock + 1) .idle
    registry := f.registry.insert e (f.lastLock + 1)
    lastLock := f.lastLock + 1 }

theorem lockFor_of_registered {e : String} {n : Nat} (registered : f.registry.get? e = some n) :
    f.lockFor e = (n, f) := by
  rw [LocalFences.lockFor, registered]

theorem lockFor_of_unregistered {e : String} (unregistered : f.registry.get? e = none) :
    f.lockFor e = (f.lastLock + 1, f.register e) := by
  rw [LocalFences.lockFor, unregistered]
  rfl

theorem register_registry {e e' : String} {n : Nat} :
    (f.register e).registry.get? e' = some n ↔
      (e' = e ∧ n = f.lastLock + 1) ∨ (e' ≠ e ∧ f.registry.get? e' = some n) := by
  rw [register, Table.get?_insert]
  by_cases same : e' = e
  · simp [same, eq_comm]
  · simp [same]

theorem Orderly.fresh (orderly : f.Orderly) {e : String} {n : Nat}
    (registered : f.registry.get? e = some n) : n ≠ f.lastLock + 1 := by
  have := orderly.numbered registered
  omega

theorem Orderly.register (orderly : f.Orderly) {e : String}
    (unregistered : f.registry.get? e = none) : (f.register e).Orderly where
  registered := by
    intro e' n found
    rcases register_registry.1 found with ⟨rfl, rfl⟩ | ⟨_, other⟩
    · exact ⟨.idle, Table.get?_insert_self .., Lock.fair_idle⟩
    · obtain ⟨l, lock, fair⟩ := orderly.registered other
      exact ⟨l, (Table.get?_insert_of_ne _ _ (orderly.fresh other)).trans lock, fair⟩
  single := by
    intro e₁ e₂ n first second
    rcases register_registry.1 first with ⟨rfl, rfl⟩ | ⟨_, other₁⟩
    · rcases register_registry.1 second with ⟨rfl, _⟩ | ⟨_, other₂⟩
      · rfl
      · exact absurd rfl (orderly.fresh other₂)
    · rcases register_registry.1 second with ⟨_, rfl⟩ | ⟨_, other₂⟩
      · exact absurd rfl (orderly.fresh other₁)
      · exact orderly.single other₁ other₂
  kept := by
    intro n l found
    by_cases same : n = f.lastLock + 1
    · exact ⟨e, register_registry.2 (.inl ⟨rfl, same⟩)⟩
    · obtain ⟨e', other⟩ := orderly.kept ((Table.get?_insert_of_ne _ _ same).symm.trans found)
      refine ⟨e', register_registry.2 (.inr ⟨?_, other⟩)⟩
      rintro rfl
      exact Option.some_ne_none n (other.symm.trans unregistered)
  numbered := by
    intro e' n found
    rcases register_registry.1 found with ⟨_, rfl⟩ | ⟨_, other⟩
    · exact Nat.le_refl _
    · exact Nat.le_succ_of_le (orderly.numbered other)

theorem Orderly.lockOf_register (orderly : f.Orderly) {e : String}
    (unregistered : f.registry.get? e = none) (e' : String) :
    (f.register e).lockOf e' = f.lockOf e' := by
  by_cases same : e' = e
  · subst same
    rw [lockOf_of_unregistered unregistered]
    exact lockOf_of_registered (Table.get?_insert_self ..) (Table.get?_insert_self ..)
  · cases other : f.registry.get? e' with
    | none =>
      rw [lockOf_of_unregistered other]
      exact lockOf_of_unregistered ((Table.get?_insert_of_ne _ _ same).trans other)
    | some n =>
      obtain ⟨l, lock, _⟩ := orderly.registered other
      rw [lockOf_of_registered other lock]
      apply lockOf_of_registered
      · exact register_registry.2 (.inr ⟨same, other⟩)
      · exact (Table.get?_insert_of_ne _ _ (orderly.fresh other)).trans lock

theorem Orderly.lockFor (orderly : f.Orderly) (e : String) :
    (f.lockFor e).2.Orderly ∧ (f.lockFor e).2.registry.get? e = some (f.lockFor e).1 ∧
      ∀ e', (f.lockFor e).2.lockOf e' = f.lockOf e' := by
  cases registered : f.registry.get? e with
  | some n =>
    rw [lockFor_of_registered registered]
    exact ⟨orderly, registered, fun _ => rfl⟩
  | none =>
    rw [lockFor_of_unregistered registered]
    exact ⟨orderly.register registered, register_registry.2 (.inl ⟨rfl, rfl⟩),
      orderly.lockOf_register registered⟩

theorem lockFor_registry (f : LocalFences) (e : String) {e' : String} {n : Nat}
    (registered : f.registry.get? e' = some n) :
    (f.lockFor e).2.registry.get? e' = some n := by
  cases known : f.registry.get? e with
  | some m =>
    rw [lockFor_of_registered known]
    exact registered
  | none =>
    rw [lockFor_of_unregistered known]
    refine register_registry.2 (.inr ⟨?_, registered⟩)
    rintro rfl
    exact Option.some_ne_none n (registered.symm.trans known)

theorem lockFor_held (f : LocalFences) (e : String) : (f.lockFor e).2.held = f.held := by
  rw [LocalFences.lockFor]
  split <;> rfl

theorem lockFor_announced (f : LocalFences) (e : String) :
    (f.lockFor e).2.announced = f.announced := by
  rw [LocalFences.lockFor]
  split <;> rfl

theorem lockFor_lastRequest (f : LocalFences) (e : String) :
    (f.lockFor e).2.lastRequest = f.lastRequest := by
  rw [LocalFences.lockFor]
  split <;> rfl

/-- The request that is made when a lock is asked for. -/
def nextRequest (f : LocalFences) (mode : LockMode) : LockRequest := ⟨f.lastRequest + 1, mode⟩

theorem ask_request (f : LocalFences) (e : String) (mode : LockMode) :
    (f.ask e mode).1.request = f.lastRequest + 1 := by
  rw [← lockFor_lastRequest f e]
  rfl

theorem ask_lastRequest (f : LocalFences) (e : String) (mode : LockMode) :
    (f.ask e mode).2.lastRequest = f.lastRequest + 1 := by
  rw [← lockFor_lastRequest f e]
  rfl

theorem ask_held (f : LocalFences) (e : String) (mode : LockMode) :
    (f.ask e mode).2.held = f.held := lockFor_held f e

theorem ask_announced (f : LocalFences) (e : String) (mode : LockMode) :
    (f.ask e mode).2.announced = f.announced := lockFor_announced f e

theorem Orderly.ask (orderly : f.Orderly) (e : String) (mode : LockMode) :
    (f.ask e mode).2.Orderly :=
  (orderly.lockFor e).1.modify (fun _ fair => fair.request _) _

theorem Orderly.ask_registry (orderly : f.Orderly) (e : String) (mode : LockMode) :
    (f.ask e mode).2.registry.get? e = some (f.ask e mode).1.lock := (orderly.lockFor e).2.1

theorem Orderly.lockOf_ask (orderly : f.Orderly) (e : String) (mode : LockMode) (e' : String) :
    (f.ask e mode).2.lockOf e' =
      if e' = e then (f.lockOf e).request (f.nextRequest mode) else f.lockOf e' := by
  obtain ⟨made, registered, same⟩ := orderly.lockFor e
  rw [nextRequest, ← lockFor_lastRequest f e, ← same e, ← same e']
  split
  · next named =>
    subst named
    exact made.lockOf_modify registered _ _
  · next apart => exact made.lockOf_modify_of_ne registered apart _ _

theorem Sound.ask (sound : f.Sound users) (e : String) (mode : LockMode) :
    (f.ask e mode).2.Sound (⟨e, (f.ask e mode).1, .waiting mode⟩ ::ₘ users) where
  orderly := sound.orderly.ask e mode
  accounts :=
    { ticketed := by
        intro u member
        rcases Multiset.mem_cons.1 member with rfl | old
        · exact sound.orderly.ask_registry e mode
        · exact lockFor_registry f e (sound.accounts.ticketed u old)
      requests := by
        intro e'
        rw [sound.orderly.lockOf_ask]
        by_cases same : e' = e
        · subst same
          rw [if_pos rfl, Lock.request_requests, ← Multiset.coe_add, sound.accounts.requests,
            Multiset.add_comm, Multiset.coe_singleton, Multiset.singleton_add]
          refine Eq.trans ?_ (FenceUser.requestsOf_cons_self _).symm
          rw [nextRequest, FenceUser.request, FenceUser.number, ask_request, FenceRole.mode]
        · rw [if_neg same, sound.accounts.requests, FenceUser.requestsOf_cons_of_ne same]
      distinct := by
        rw [Multiset.map_cons, Multiset.nodup_cons]
        refine ⟨?_, sound.accounts.distinct⟩
        intro taken
        obtain ⟨u, member, same⟩ := Multiset.mem_map.1 taken
        have drawn := sound.accounts.drawn u member
        rw [same, FenceUser.number, ask_request] at drawn
        omega
      drawn := by
        intro u member
        rw [ask_lastRequest]
        rcases Multiset.mem_cons.1 member with rfl | old
        · rw [FenceUser.number, ask_request]
        · exact Nat.le_succ_of_le (sound.accounts.drawn u old)
      granted := by
        intro u member knows
        rcases Multiset.mem_cons.1 member with rfl | old
        · exact nomatch knows
        · have granted := sound.accounts.granted u old knows
          rw [sound.orderly.lockOf_ask]
          split
          · next same => exact Lock.isGranted_request (same ▸ granted) _
          · exact granted }
  updates := by
    intro e' t
    rw [ask_held, sound.updates, Multiset.mem_cons]
    simp

theorem Orderly.giveUp (orderly : f.Orderly) (t : Ticket) : (f.giveUp t).Orderly :=
  orderly.modify (fun _ fair => fair.remove _) _

theorem Orderly.lockOf_giveUp (orderly : f.Orderly) {e : String} {t : Ticket}
    (registered : f.registry.get? e = some t.lock) (e' : String) :
    (f.giveUp t).lockOf e' = if e' = e then (f.lockOf e).remove t.request else f.lockOf e' := by
  split
  · next same =>
    subst same
    exact orderly.lockOf_modify registered _ _
  · next apart => exact orderly.lockOf_modify_of_ne registered apart _ _

theorem Accounts.giveUp (orderly : f.Orderly) {u : FenceUser}
    (accounts : f.Accounts (u ::ₘ users)) : (f.giveUp u.ticket).Accounts users := by
  have registered := accounts.ticketed u (Multiset.mem_cons_self u users)
  have distinct := accounts.distinct
  rw [Multiset.map_cons, Multiset.nodup_cons] at distinct
  have apart : ∀ v ∈ users, v.number ≠ u.number := by
    intro v member same
    exact distinct.1 (same ▸ Multiset.mem_map_of_mem _ member)
  refine ⟨fun v member => accounts.ticketed v (Multiset.mem_cons_of_mem member), ?_, distinct.2,
    fun v member => accounts.drawn v (Multiset.mem_cons_of_mem member), ?_⟩
  · intro e
    rw [orderly.lockOf_giveUp registered]
    split
    · next same =>
      subst same
      rw [Lock.remove_requests, ← Multiset.filter_coe, accounts.requests,
        FenceUser.requestsOf_cons_self, Multiset.filter_cons_of_neg _ (fun other => other rfl),
        Multiset.filter_eq_self]
      intro r member
      obtain ⟨v, inside, _, rfl⟩ := FenceUser.mem_requestsOf.1 member
      exact apart v inside
    · next other => rw [accounts.requests, FenceUser.requestsOf_cons_of_ne other]
  · intro v member knows
    have granted := accounts.granted v (Multiset.mem_cons_of_mem member) knows
    rw [orderly.lockOf_giveUp registered]
    split
    · next same => exact Lock.isGranted_remove (same ▸ granted) (apart v member)
    · exact granted

/-- Somebody who waits or publishes and gives the lock up is no longer one of its users. -/
theorem Sound.giveUp {u : FenceUser} (sound : f.Sound (u ::ₘ users)) (role : u.role ≠ .updating) :
    (f.giveUp u.ticket).Sound users where
  orderly := sound.orderly.giveUp u.ticket
  accounts := sound.accounts.giveUp sound.orderly
  updates := by
    intro e t
    refine sound.updates.trans ?_
    rw [Multiset.mem_cons]
    refine or_iff_right ?_
    rintro rfl
    exact role rfl

/-- Either nothing is forgotten, or the lock of the event type has no requests. -/
theorem Orderly.prune_cases (orderly : f.Orderly) (e : String) :
    f.prune e = f ∨ ∃ n, f.registry.get? e = some n ∧ (f.lockOf e).requests = [] ∧
      f.prune e = { f with locks := f.locks.erase n, registry := f.registry.erase e } := by
  rw [LocalFences.prune]
  cases registered : f.registry.get? e with
  | none => exact .inl rfl
  | some n =>
    obtain ⟨l, found, _⟩ := orderly.registered registered
    simp only [found, Option.any_some, lockOf_of_registered registered found]
    split
    · next idle => exact .inr ⟨n, rfl, (Lock.isIdle_iff l).1 idle, rfl⟩
    · exact .inl rfl

theorem Orderly.prune (orderly : f.Orderly) (e : String) : (f.prune e).Orderly := by
  rcases orderly.prune_cases e with same | ⟨n, registered, _, pruned⟩
  · rw [same]
    exact orderly
  have lookup : ∀ {e' m}, (f.registry.erase e).get? e' = some m →
      e' ≠ e ∧ f.registry.get? e' = some m := by
    intro e' m found
    by_cases named : e' = e
    · rw [named, Table.get?_erase_self] at found
      exact nomatch found
    · exact ⟨named, Table.get?_erase_of_ne f.registry named ▸ found⟩
  rw [pruned]
  refine ⟨?_, ?_, ?_, ?_⟩
  · intro e' m found
    obtain ⟨named, other⟩ := lookup found
    have apart : m ≠ n := by
      rintro rfl
      exact named (orderly.single other registered)
    obtain ⟨l, lock, fair⟩ := orderly.registered other
    exact ⟨l, (Table.get?_erase_of_ne f.locks apart).trans lock, fair⟩
  · intro e₁ e₂ m first second
    exact orderly.single (lookup first).2 (lookup second).2
  · intro m l found
    by_cases same : m = n
    · rw [same, Table.get?_erase_self] at found
      exact nomatch found
    · rw [Table.get?_erase_of_ne f.locks same] at found
      obtain ⟨e', other⟩ := orderly.kept found
      refine ⟨e', ?_⟩
      rw [Table.get?_erase_of_ne, other]
      rintro rfl
      rw [registered] at other
      exact same (Option.some_inj.1 other).symm
  · intro e' m found
    exact orderly.numbered (lookup found).2

/-- A lock that is forgotten was idle, as the lock is that would be made in its place. -/
theorem Orderly.lockOf_prune (orderly : f.Orderly) (e e' : String) :
    (f.prune e).lockOf e' = f.lockOf e' := by
  rcases orderly.prune_cases e with same | ⟨n, registered, free, pruned⟩
  · rw [same]
  rw [pruned]
  by_cases named : e' = e
  · subst named
    have idle : f.lockOf e' = .idle := by
      rw [← orderly.fair e', free]
      rfl
    rw [idle]
    exact lockOf_of_unregistered (Table.get?_erase_self f.registry e')
  · cases other : f.registry.get? e' with
    | none =>
      rw [lockOf_of_unregistered other]
      exact lockOf_of_unregistered ((Table.get?_erase_of_ne f.registry named).trans other)
    | some m =>
      have apart : m ≠ n := by
        rintro rfl
        exact named (orderly.single other registered)
      obtain ⟨l, lock, _⟩ := orderly.registered other
      rw [lockOf_of_registered other lock]
      exact lockOf_of_registered ((Table.get?_erase_of_ne f.registry named).trans other)
        ((Table.get?_erase_of_ne f.locks apart).trans lock)

theorem Accounts.prune_eq (orderly : f.Orderly) (accounts : f.Accounts users) {u : FenceUser}
    (member : u ∈ users) : f.prune u.eventType = f := by
  rcases orderly.prune_cases u.eventType with same | ⟨n, _, free, _⟩
  · exact same
  · have request := accounts.request_mem member
    rw [free] at request
    exact nomatch request

theorem prune_held (f : LocalFences) (e : String) : (f.prune e).held = f.held := by
  rw [LocalFences.prune]
  split
  · rfl
  · split <;> rfl

theorem prune_announced (f : LocalFences) (e : String) :
    (f.prune e).announced = f.announced := by
  rw [LocalFences.prune]
  split
  · rfl
  · split <;> rfl

theorem prune_lastRequest (f : LocalFences) (e : String) :
    (f.prune e).lastRequest = f.lastRequest := by
  rw [LocalFences.prune]
  split
  · rfl
  · split <;> rfl

theorem Accounts.prune (orderly : f.Orderly) (accounts : f.Accounts users) (e : String) :
    (f.prune e).Accounts users where
  ticketed := by
    intro u member
    by_cases named : u.eventType = e
    · rw [← named, accounts.prune_eq orderly member]
      exact accounts.ticketed u member
    · rcases orderly.prune_cases e with same | ⟨n, _, _, pruned⟩
      · rw [same]
        exact accounts.ticketed u member
      · rw [pruned]
        exact (Table.get?_erase_of_ne f.registry named).trans (accounts.ticketed u member)
  requests := by
    intro e'
    rw [orderly.lockOf_prune, accounts.requests]
  distinct := accounts.distinct
  drawn := by
    rw [prune_lastRequest]
    exact accounts.drawn
  granted := by
    intro u member knows
    rw [orderly.lockOf_prune]
    exact accounts.granted u member knows

theorem Sound.prune (sound : f.Sound users) (e : String) : (f.prune e).Sound users where
  orderly := sound.orderly.prune e
  accounts := sound.accounts.prune sound.orderly e
  updates := by
    rw [prune_held]
    exact sound.updates

theorem Accounts.know {u v : FenceUser} (accounts : f.Accounts (u ::ₘ users))
    (named : v.eventType = u.eventType) (ticket : v.ticket = u.ticket)
    (mode : v.role.mode = u.role.mode)
    (granted : (f.lockOf u.eventType).isGranted u.number = true) :
    f.Accounts (v ::ₘ users) := by
  have number : v.number = u.number := congrArg Ticket.request ticket
  have request : v.request = u.request := by
    rw [FenceUser.request, FenceUser.request, number, mode]
  refine ⟨?_, ?_, ?_, ?_, ?_⟩
  · intro w member
    rcases Multiset.mem_cons.1 member with rfl | other
    · rw [named, ticket]
      exact accounts.ticketed u (Multiset.mem_cons_self u users)
    · exact accounts.ticketed w (Multiset.mem_cons_of_mem other)
  · intro e
    rw [accounts.requests]
    by_cases same : e = u.eventType
    · rw [same, FenceUser.requestsOf_cons_self, ← named, FenceUser.requestsOf_cons_self, request]
    · rw [FenceUser.requestsOf_cons_of_ne same, FenceUser.requestsOf_cons_of_ne (named ▸ same)]
  · rw [Multiset.map_cons, number, ← Multiset.map_cons FenceUser.number u]
    exact accounts.distinct
  · intro w member
    rcases Multiset.mem_cons.1 member with rfl | other
    · rw [number]
      exact accounts.drawn u (Multiset.mem_cons_self u users)
    · exact accounts.drawn w (Multiset.mem_cons_of_mem other)
  · intro w member knows
    rcases Multiset.mem_cons.1 member with rfl | other
    · rw [named, number]
      exact granted
    · exact accounts.granted w (Multiset.mem_cons_of_mem other) knows

theorem permitEnded_of_granted {t : Ticket} (granted : f.isGranted t = true) (e : String)
    (limit : Duration) : permitEnded e limit t f = (.ok t, f) := by
  rw [permitEnded, if_pos granted]

theorem permitEnded_of_waiting {t : Ticket} (waits : f.isGranted t = false) (e : String)
    (limit : Duration) : permitEnded e limit t f = (.error (.timeout e limit), f.giveUp t) := by
  rw [permitEnded, waits]
  rfl

theorem Sound.permit {e : String} {t : Ticket}
    (sound : f.Sound (⟨e, t, .waiting .shared⟩ ::ₘ users)) (granted : f.isGranted t = true) :
    f.Sound (⟨e, t, .publishing⟩ ::ₘ users) where
  orderly := sound.orderly
  accounts := by
    have waiting := Multiset.mem_cons_self (⟨e, t, .waiting .shared⟩ : FenceUser) users
    exact sound.accounts.know rfl rfl rfl ((sound.isGranted_eq waiting).symm.trans granted)
  updates := by
    intro e' t'
    rw [sound.updates, Multiset.mem_cons, Multiset.mem_cons]
    simp

theorem startEnded_of_granted {t : Ticket} (granted : f.isGranted t = true) (e : String)
    (limit : Duration) : startEnded e limit t f = (.ok (), f.hold e t) := by
  rw [startEnded, if_pos granted]

theorem startEnded_of_waiting {t : Ticket} (waits : f.isGranted t = false) (e : String)
    (limit : Duration) :
    startEnded e limit t f = (.error (.timeout e limit), (f.giveUp t).prune e) := by
  rw [startEnded, waits]
  rfl

theorem Sound.unheld {e : String} {t : Ticket}
    (sound : f.Sound (⟨e, t, .waiting .exclusive⟩ ::ₘ users)) (granted : f.isGranted t = true) :
    f.held.get? e = none := by
  have waiting := Multiset.mem_cons_self (⟨e, t, .waiting .exclusive⟩ : FenceUser) users
  rw [Option.eq_none_iff_forall_ne_some]
  intro t' held
  have locked := (sound.isGranted_eq waiting).symm.trans granted
  exact nomatch congrArg FenceUser.role (sound.update_alone held waiting rfl locked)

theorem Sound.hold_eq {e : String} {t : Ticket}
    (sound : f.Sound (⟨e, t, .waiting .exclusive⟩ ::ₘ users)) (granted : f.isGranted t = true) :
    f.hold e t = { f with held := f.held.insert e t } := by
  rw [hold, sound.unheld granted]

theorem Sound.hold {e : String} {t : Ticket}
    (sound : f.Sound (⟨e, t, .waiting .exclusive⟩ ::ₘ users)) (granted : f.isGranted t = true) :
    (f.hold e t).Sound (⟨e, t, .updating⟩ ::ₘ users) := by
  have waiting := Multiset.mem_cons_self (⟨e, t, .waiting .exclusive⟩ : FenceUser) users
  have locked := (sound.isGranted_eq waiting).symm.trans granted
  have unheld := sound.unheld granted
  have known : f.Accounts (⟨e, t, .updating⟩ ::ₘ users) := sound.accounts.know rfl rfl rfl locked
  rw [sound.hold_eq granted]
  refine ⟨⟨sound.orderly.registered, sound.orderly.single, sound.orderly.kept,
    sound.orderly.numbered⟩, ⟨known.ticketed, known.requests, known.distinct, known.drawn,
    known.granted⟩, ?_⟩
  intro e' t'
  have before := sound.updates (e := e') (t := t')
  rw [Multiset.mem_cons] at before ⊢
  rw [Table.get?_insert]
  by_cases named : e' = e
  · subst named
    rw [if_pos rfl]
    constructor
    · intro same
      rw [Option.some_inj.1 same]
      exact .inl rfl
    · rintro (same | other)
      · exact congrArg some (congrArg FenceUser.ticket same).symm
      · rw [before.2 (.inr other)] at unheld
        exact nomatch unheld
  · rw [if_neg named, before]
    simp [named]

theorem finish_of_unheld {e : String} (unheld : f.held.get? e = none) :
    finish e f = (.error (.notHeld e), f) := by
  rw [LocalFences.finish, unheld]

theorem finish_answer {e : String} {t : Ticket} (held : f.held.get? e = some t) :
    (finish e f).1 = .ok () := by
  rw [LocalFences.finish, held]

theorem Sound.finish {e : String} {t : Ticket}
    (sound : f.Sound (⟨e, t, .updating⟩ ::ₘ users)) : (finish e f).2.Sound users := by
  have held := sound.updates.2 (Multiset.mem_cons_self _ users)
  rw [LocalFences.finish, held]
  have erased := sound.orderly.erase_held e
  have accounts : ({ f with held := f.held.erase e } : LocalFences).Accounts
      (⟨e, t, .updating⟩ ::ₘ users) :=
    ⟨sound.accounts.ticketed, sound.accounts.requests, sound.accounts.distinct,
      sound.accounts.drawn, sound.accounts.granted⟩
  have left : (({ f with held := f.held.erase e } : LocalFences).giveUp t).Sound users := by
    refine ⟨erased.giveUp t, accounts.giveUp erased, ?_⟩
    intro e' t'
    have before := sound.updates (e := e') (t := t')
    rw [Multiset.mem_cons] at before
    change (f.held.erase e).get? e' = some t' ↔ _
    by_cases named : e' = e
    · subst named
      rw [Table.get?_erase_self]
      refine iff_of_false nofun fun other => ?_
      -- Two updates of one event type would be recorded with the same ticket.
      have same := before.2 (.inr other)
      rw [held] at same
      obtain rfl := Option.some_inj.1 same
      have distinct := sound.accounts.distinct
      rw [Multiset.map_cons, Multiset.nodup_cons] at distinct
      exact distinct.1 (Multiset.mem_map_of_mem FenceUser.number other)
    · rw [Table.get?_erase_of_ne _ named, before]
      refine or_iff_right fun same => ?_
      exact named (congrArg FenceUser.eventType same)
  have pruned := left.prune e
  exact ⟨⟨pruned.orderly.registered, pruned.orderly.single, pruned.orderly.kept,
    pruned.orderly.numbered⟩, ⟨pruned.accounts.ticketed, pruned.accounts.requests,
    pruned.accounts.distinct, pruned.accounts.drawn, pruned.accounts.granted⟩, pruned.updates⟩

end Cutover.LocalFences
