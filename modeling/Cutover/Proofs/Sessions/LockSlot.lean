import Cutover.Proofs.Sessions.OpenLocks

set_option autoImplicit false

namespace Cutover

open Ensemble

namespace SessionManager

variable {m : SessionManager} {w : Surroundings}

theorem spares_connect (factory : SessionFactory) (settings : SessionSettings)
    (recorded : w.ensemble.Recorded) : w.Spares (connect factory settings w).2 := by
  have first : w.Spares (factory.openSession .primary settings.sessionTimeout w).2 :=
    SessionFactory.spares_of_openSession (by decide) recorded
  rw [connect]
  split
  · next e w' result =>
    rw [result] at first
    exact first
  · next primary w' result =>
    have opened := SessionFactory.other_of_openSession (by decide) recorded result
    rw [result] at first
    have second : w'.Spares (factory.openSession .subscription settings.maxCommitTimeout w').2 :=
      SessionFactory.spares_of_openSession (by decide) first.follows.recorded
    split
    · next e w'' result' =>
      rw [result'] at second
      have others : ∀ id ∈ [primary], w''.ensemble.Other id := by
        intro id member
        rw [List.mem_singleton.1 member]
        exact opened.follows second.follows
      exact (first.trans second).trans
        (Surroundings.spares_closeAll second.follows.recorded others)
    · next subscription w'' result' =>
      rw [result'] at second
      exact first.trans second

/-- A manager that is connected has an empty slot, and servers to open sessions on. -/
theorem lock_of_connect {factory : SessionFactory} {settings : SessionSettings}
    {w' : Surroundings} (result : connect factory settings w = (.ok m, w')) :
    m.lock = none ∧ m.factory.connection.servers ≠ [] := by
  rw [connect] at result
  split at result
  · cases (Prod.mk.inj result).1
  · next primary w₁ opened =>
    split at result
    · cases (Prod.mk.inj result).1
    · obtain rfl := Except.ok.inj (Prod.mk.inj result).1
      exact ⟨rfl, SessionFactory.servers_of_openSession opened⟩

theorem spares_subscribe (m : SessionManager) (timeout : Duration)
    (recorded : w.ensemble.Recorded) : w.Spares (m.subscribe timeout w).2 := by
  have opens : w.Spares (m.factory.openSession .subscription timeout w).2 :=
    SessionFactory.spares_of_openSession (by decide) recorded
  rw [subscribe]
  split
  · exact Surroundings.spares_refl recorded
  split
  · next e w' result =>
    rw [result] at opens
    exact opens
  · next id w' result =>
    rw [result] at opens
    exact opens

theorem other_of_subscribe {timeout : Duration} {h : Handle} {w' : Surroundings}
    (recorded : w.ensemble.Recorded) (result : m.subscribe timeout w = (.ok h, w')) :
    ∀ id ∈ h.owns, w'.ensemble.Other id := by
  rw [subscribe] at result
  split at result
  · obtain rfl := Except.ok.inj (Prod.mk.inj result).1
    exact List.forall_mem_nil _
  split at result
  · cases (Prod.mk.inj result).1
  · next id w₁ opened =>
    obtain ⟨handed, rfl⟩ := Prod.mk.inj result
    obtain rfl := Except.ok.inj handed
    intro id' member
    rw [List.mem_singleton.1 member]
    exact SessionFactory.other_of_openSession (by decide) recorded opened

def lockParams (m : SessionManager) : SessionParams :=
  m.factory.params .lock m.settings.sessionTimeout

/-- A call for the lock session gives the one in the slot while it is young. Later it makes attempts
to replace it. -/
inductive LockCall (m : SessionManager) (w : Surroundings) :
    Except EnsembleError Nat → SessionManager → Surroundings → Prop
  | young {slot : LockSlot} (held : m.lock = some slot)
      (young : w.now - slot.createdAt ≤ livePeriod) : LockCall m w (.ok slot.session) m w
  | refused {reason : String} {w' : Surroundings} (due : m.live? w.now = none)
      (tries : w.ensemble.Tries w'.ensemble m.lockParams
        (.error (EnsembleError.unavailable reason)))
      (now : w.now ≤ w'.now)
      (attempted : m.factory.connection.servers ≠ [] →
        w.ensemble.attempts < w'.ensemble.attempts) :
      LockCall m w (.error (.unavailable reason)) m w'
  | replaced {id : Nat} {w' : Surroundings} (due : m.live? w.now = none)
      (tries : w.ensemble.Tries w'.ensemble m.lockParams (.ok id : Except EnsembleError Nat))
      (now : w.now ≤ w'.now)
      (attempted : m.factory.connection.servers ≠ [] →
        w.ensemble.attempts < w'.ensemble.attempts) :
      LockCall m w (.ok id) { m with lock := some ⟨id, w'.now⟩ } (w'.closeAll m.slot)

theorem lockCall (m : SessionManager) (recorded : w.ensemble.Recorded) :
    m.LockCall w (m.lockSession w).1 (m.lockSession w).2.1 (m.lockSession w).2.2 := by
  have tries := m.factory.openSession_tries .lock m.settings.sessionTimeout recorded
  have now := m.factory.now_le_openSession .lock m.settings.sessionTimeout w
  have attempted (servers : m.factory.connection.servers ≠ []) :=
    SessionFactory.attempts_lt_openSession servers .lock m.settings.sessionTimeout w
  rw [lockSession]
  split
  · next id live =>
    rw [live?] at live
    split at live
    · cases live
    · next slot held =>
      split at live
      · next young =>
        obtain rfl := Option.some.inj live
        exact .young held young
      · cases live
  · next due =>
    split
    · next error w' result =>
      obtain ⟨reason, rfl⟩ := SessionFactory.unavailable_of_openSession result
      rw [result] at tries now attempted
      exact .refused due tries now attempted
    · next id w' result =>
      rw [result] at tries now attempted
      rw [m.closeLock_eq w']
      exact .replaced due tries now attempted

end SessionManager

namespace SessionScript

variable {s s' s'' : SessionScript}

abbrev ensemble (s : SessionScript) : Ensemble := s.surroundings.ensemble

def slot? (s : SessionScript) : Option LockSlot := s.manager.bind (·.lock)

theorem slot?_connected {m : SessionManager} (connected : s.manager = some m) :
    s.slot? = m.lock := by
  rw [slot?, connected, Option.bind_some]

/-- The open lock session is that in the slot, and it serves requests. -/
structure Guarded (s : SessionScript) : Prop where
  recorded : s.ensemble.Recorded
  empty : s.slot? = none → s.ensemble.openLocks = []
  full : ∀ slot, s.slot? = some slot →
    ∃ x, s.ensemble.openLocks = [x] ∧ x.id = slot.session ∧ x.failsProbe = false
  past : ∀ slot, s.slot? = some slot → slot.createdAt ≤ s.surroundings.now
  servers : ∀ m, s.manager = some m → m.factory.connection.servers ≠ []
  handles : ∀ name h, s.handles.get? name = some h → ∀ id ∈ h.owns, s.ensemble.Other id

/-- From one state to another the lock session stays guarded, and once there is one, there is one at
every moment in between. -/
structure Guards (s s' : SessionScript) : Prop where
  guarded : s'.Guarded
  follows : s.ensemble.Follows s'.ensemble
  held : s.slot? ≠ none → s'.slot? ≠ none
  locked : s.slot? ≠ none → ∀ k, s.ensemble.log.length ≤ k → s'.ensemble.LockedAt k

theorem Guards.trans (first : s.Guards s') (second : s'.Guards s'') : s.Guards s'' where
  guarded := second.guarded
  follows := first.follows.trans second.follows
  held has := second.held (first.held has)
  locked has k after := by
    rcases Nat.le_total s'.ensemble.log.length k with later | within
    · exact second.locked (first.held has) k later
    · exact (first.locked has k after).follows within second.follows

theorem Guarded.spared (guarded : s.Guarded) (spares : s.surroundings.Spares s'.surroundings)
    (slot : s'.slot? = s.slot?)
    (servers : ∀ m, s'.manager = some m → m.factory.connection.servers ≠ [])
    (handles : ∀ name h, s'.handles.get? name = some h → ∀ id ∈ h.owns, s'.ensemble.Other id) :
    s.Guards s' where
  guarded := {
    recorded := spares.follows.recorded
    empty := by
      rw [slot, spares.locks]
      exact guarded.empty
    full := by
      rw [slot, spares.locks]
      exact guarded.full
    past := by
      rw [slot]
      intro found held
      exact (guarded.past found held).trans spares.now
    servers := servers
    handles := handles }
  follows := spares.follows
  held has := slot ▸ has
  locked has k after := by
    obtain ⟨found, held⟩ := Option.ne_none_iff_exists'.1 has
    obtain ⟨x, locks, -, serves⟩ := guarded.full found held
    have before : x ∈ s.ensemble.openLocks := by simp [locks]
    have still : x ∈ s'.ensemble.openLocks := spares.locks.symm ▸ before
    exact spares.follows.lockedAt guarded.recorded before still serves after

theorem Guarded.passed (guarded : s.Guarded) {w : Surroundings} (spares : s.surroundings.Spares w) :
    s.Guards { s with surroundings := w } :=
  guarded.spared spares rfl guarded.servers fun name h kept id member =>
    (guarded.handles name h kept id member).follows spares.follows

theorem Guarded.refl (guarded : s.Guarded) : s.Guards s :=
  guarded.passed (Surroundings.spares_refl guarded.recorded)

theorem Guarded.owned (guarded : s.Guarded) (name : String) :
    ∀ id ∈ s.ownedBy name, s.ensemble.Other id := by
  intro id member
  rw [ownedBy] at member
  split at member
  · exact absurd member List.not_mem_nil
  · next h kept => exact guarded.handles name h kept id member

theorem Guarded.switched (guarded : s.Guarded) {e : Ensemble}
    (sessions : e.sessions = s.ensemble.sessions) (lastId : e.lastId = s.ensemble.lastId)
    (log : e.log = s.ensemble.log) :
    s.Guards { s with surroundings := { s.surroundings with ensemble := e } } :=
  guarded.passed ⟨guarded.recorded.follows sessions lastId log, openLocks_of_sessions sessions,
    Nat.le_refl _⟩

theorem Guarded.connect (guarded : s.Guarded) (none : s.manager = none) :
    s.Guards s.connect.2 := by
  rw [SessionScript.connect]
  split
  · exact guarded.refl
  next factory made =>
  have spares := SessionManager.spares_connect factory s.settings guarded.recorded
  split
  · next e w result =>
    rw [result] at spares
    exact guarded.passed spares
  · next m w result =>
    rw [result] at spares
    obtain ⟨unlocked, servers⟩ := SessionManager.lock_of_connect result
    apply guarded.spared spares
    · simp [slot?, none, unlocked]
    · rintro m' ⟨⟩
      exact servers
    · intro name h kept id member
      exact (guarded.handles name h kept id member).follows spares.follows

theorem Guarded.create (guarded : s.Guarded) {kind : SessionKind} (other : kind ≠ .lock)
    (timeout : Duration) : s.Guards (s.create kind timeout).2 := by
  rw [SessionScript.create]
  split
  · exact guarded.refl
  next factory made =>
  have spares : s.surroundings.Spares (factory.openSession kind timeout s.surroundings).2 :=
    SessionFactory.spares_of_openSession other guarded.recorded
  split
  · next e w result =>
    rw [result] at spares
    exact guarded.passed spares
  · next id w result =>
    rw [result] at spares
    exact guarded.passed spares

theorem Guarded.closeHandle (guarded : s.Guarded) (name : String) :
    s.Guards (s.closeHandle name).2 := by
  have spares := Surroundings.spares_closeAll guarded.recorded (guarded.owned name)
  rw [closeHandle_eq]
  apply guarded.spared spares
  · rfl
  · exact guarded.servers
  · intro other h kept id member
    have before : s.handles.get? other = some h := by
      by_cases same : other = name
      · rw [same, Table.get?_erase_self] at kept
        exact nomatch kept
      · rw [Table.get?_erase_of_ne _ same] at kept
        exact kept
    exact (guarded.handles other h before id member).follows spares.follows

theorem Guarded.keepHandle (guarded : s.Guarded) (name : String) {h : Handle}
    (others : ∀ id ∈ h.owns, s.ensemble.Other id) : s.Guards (s.keepHandle name h) := by
  have spares := Surroundings.spares_closeAll guarded.recorded (guarded.owned name)
  rw [keepHandle_eq]
  apply guarded.spared spares
  · rfl
  · exact guarded.servers
  · intro other h' kept id member
    have before : s.ensemble.Other id := by
      rw [Table.get?_insert] at kept
      split at kept
      · obtain rfl := Option.some.inj kept
        exact others id member
      · exact guarded.handles other h' kept id member
    exact before.follows spares.follows

theorem Guarded.subscribe (guarded : s.Guarded) (timeout : Duration) (name : String) :
    s.Guards (s.subscribe timeout name).2 := by
  rw [SessionScript.subscribe, withManager]
  split
  · exact guarded.refl
  next m connected =>
  have spares := m.spares_subscribe timeout guarded.recorded
  split
  · next e w result =>
    rw [result] at spares
    exact guarded.passed spares
  · next h w result =>
    have others := SessionManager.other_of_subscribe guarded.recorded result
    rw [result] at spares
    have opened := guarded.passed spares
    exact opened.trans (opened.guarded.keepHandle name others)

theorem Guarded.closeSession (guarded : s.Guarded) {id : Nat}
    (spared : ∀ slot, s.slot? = some slot → slot.session ≠ id) :
    s.Guards (s.run (.closeSession id)).2 := by
  have locks : (s.ensemble.close id).openLocks = s.ensemble.openLocks := by
    rw [guarded.recorded.openLocks_close, List.filter_eq_self]
    intro x member
    rw [decide_eq_true_eq]
    cases held : s.slot? with
    | none => simp [guarded.empty held] at member
    | some slot =>
      obtain ⟨y, only, same, -⟩ := guarded.full slot held
      rw [only, List.mem_singleton] at member
      rw [member, same]
      exact spared slot held
  rw [run, withSession]
  split
  · exact guarded.refl
  · exact guarded.passed ⟨guarded.recorded.follows_close id, locks, Nat.le_refl _⟩

theorem Guarded.openLocks_eq (guarded : s.Guarded) : ∃ old : Option Session,
    s.ensemble.openLocks = old.toList ∧ old.map (·.id) = s.slot?.map (·.session) := by
  cases held : s.slot? with
  | none => exact ⟨none, guarded.empty held, rfl⟩
  | some slot =>
    obtain ⟨x, only, same, -⟩ := guarded.full slot held
    exact ⟨some x, only, by simp [same]⟩

/-- The slot holds a session that a call has just opened, and the one it held before is closed. -/
structure Replaces (s s' : SessionScript) (id : Nat) : Prop where
  later : s.surroundings.now ≤ s'.surroundings.now
  slot : s'.slot? = some ⟨id, s'.surroundings.now⟩
  serves : s'.ensemble.probe id = .ok ()
  new : s.ensemble.session? id = none
  events : ∃ earlier, s.ensemble.Swaps s'.ensemble (s.slot?.map (·.session)) id earlier

/-- While the session in the slot is swapped for another, one of the two is open at every moment. -/
theorem Guarded.lockedAt (guarded : s.Guarded) {e : Ensemble} (follows : s.ensemble.Follows e)
    {x : Session} {earlier : List SessionEvent}
    (swaps : s.ensemble.Swaps e (s.slot?.map (·.session)) x.id earlier) (isOpen : x ∈ e.openLocks)
    (serves : x.failsProbe = false) (has : s.slot? ≠ none) {k : Nat}
    (later : s.ensemble.log.length ≤ k) : e.LockedAt k := by
  obtain ⟨slot, held⟩ := Option.ne_none_iff_exists'.1 has
  obtain ⟨old, only, same, oldServes⟩ := guarded.full slot held
  have before : old ∈ s.ensemble.openLocks := by simp [only]
  rw [held, Option.map_some, ← same] at swaps
  exact swaps.lockedAt guarded.recorded follows before oldServes isOpen serves later

theorem Guarded.replaced (guarded : s.Guarded) {m : SessionManager} (connected : s.manager = some m)
    {id : Nat} {w : Surroundings} (now : s.surroundings.now ≤ w.now)
    (tries : s.ensemble.Tries w.ensemble m.lockParams (.ok id : Except EnsembleError Nat))
    (after : s' = { s with
      surroundings := w.closeAll m.slot
      manager := some { m with lock := some ⟨id, w.now⟩ } }) :
    s.Guards s' ∧ s.Replaces s' id := by
  subst after
  obtain ⟨old, only, slot⟩ := guarded.openLocks_eq
  have closing : m.slot = (old.map (·.id)).toList := by
    rw [slot, slot?_connected connected, SessionManager.slot]
  obtain ⟨locks, earlier, swaps⟩ := tries.replaces guarded.recorded rfl only
  rw [← closing] at locks swaps
  rw [slot] at swaps
  have first := tries.follows guarded.recorded
  have follows := first.trans (first.recorded.follows_closeAll m.slot)
  have isOpen : ⟨id, m.lockParams, false, false⟩ ∈ (w.ensemble.closeAll m.slot).openLocks := by
    simp [locks]
  constructor
  · refine ⟨⟨follows.recorded, ?_, ?_, ?_, ?_, ?_⟩, follows, ?_, ?_⟩
    · rintro ⟨⟩
    · rintro slot' ⟨⟩
      exact ⟨_, locks, rfl, rfl⟩
    · rintro slot' ⟨⟩
      exact Nat.le_refl _
    · rintro m' ⟨⟩
      exact guarded.servers m connected
    · intro name h kept other member
      exact (guarded.handles name h kept other member).follows follows
    · rintro - ⟨⟩
    · exact fun has _ later => guarded.lockedAt follows swaps isOpen rfl has later
  · refine ⟨now, rfl, ?_, tries.unknown guarded.recorded, earlier, swaps⟩
    exact follows.recorded.probe_eq isOpen rfl

/-- The session in the slot, if there is one, is more than 300 s old. -/
def IsDue (s : SessionScript) : Prop :=
  ∀ slot, s.slot? = some slot → slot.createdAt + 300000 < s.surroundings.now

theorem isDue_iff {m : SessionManager} (connected : s.manager = some m) :
    s.IsDue ↔ m.live? s.surroundings.now = none := by
  rw [IsDue, slot?_connected connected, SessionManager.live?]
  cases m.lock with
  | none => simp
  | some slot =>
    have age : slot.createdAt + 300000 < s.surroundings.now ↔
        ¬s.surroundings.now - slot.createdAt ≤ SessionManager.livePeriod := by
      rw [SessionManager.livePeriod]
      omega
    simp [age]

/-- What a call comes to that is made by the manager: the session in the slot, nothing else done, or
attempts, which open another one or leave the slot and its session as they were. -/
inductive Locking (s : SessionScript) : SessionAnswer × SessionScript → Prop
  | young {slot : LockSlot} (held : s.slot? = some slot) (young : ¬s.IsDue) :
      Locking s (.session slot.session, s)
  | refused {reason : String} {s' : SessionScript} (due : s.IsDue) (stillDue : s'.IsDue)
      (manager : s'.manager = s.manager)
      (locks : s'.ensemble.openLocks = s.ensemble.openLocks)
      (attempted : s.ensemble.attempts < s'.ensemble.attempts) (guards : s.Guards s') :
      Locking s (.failed (.unavailable reason), s')
  | replaced {id : Nat} {s' : SessionScript} (due : s.IsDue) (replaces : s.Replaces s' id)
      (attempted : s.ensemble.attempts < s'.ensemble.attempts) (guards : s.Guards s') :
      Locking s (.session id, s')

theorem Guarded.locking (guarded : s.Guarded) {m : SessionManager}
    (connected : s.manager = some m) : s.Locking s.lock := by
  have call := m.lockCall guarded.recorded
  have servers := guarded.servers m connected
  have due_iff := isDue_iff connected
  rw [lock_eq connected]
  generalize m.lockSession s.surroundings = told at call ⊢
  obtain ⟨answer, m', w⟩ := told
  cases call with
  | @young slot held young =>
    have same : { s with manager := some m' } = s := by rw [← connected]
    have notDue : ¬s.IsDue := by
      rw [due_iff, SessionManager.live?, held]
      simp [young]
    rw [same]
    exact .young (slot?_connected connected ▸ held) notDue
  | refused due tries now attempted =>
    have spares : s.surroundings.Spares w :=
      ⟨tries.follows guarded.recorded, tries.openLocks_of_error, now⟩
    have isDue := due_iff.2 due
    rw [← connected]
    refine .refused isDue ?_ rfl spares.locks (attempted servers) (guarded.passed spares)
    intro slot held
    exact Nat.lt_of_lt_of_le (isDue slot held) now
  | @replaced id w' due tries now attempted =>
    obtain ⟨guards, replaces⟩ := guarded.replaced connected now tries rfl
    refine .replaced (due_iff.2 due) replaces ?_ guards
    show s.ensemble.attempts < (w'.ensemble.closeAll m.slot).attempts
    rw [attempts_closeAll]
    exact attempted servers

theorem lock_unconnected (none : s.manager = none) : s.lock = (.notConnected, s) := by
  rw [SessionScript.lock, withManager, none]

theorem Guarded.lock (guarded : s.Guarded) : s.Guards s.lock.2 := by
  cases connected : s.manager with
  | none =>
    rw [lock_unconnected connected]
    exact guarded.refl
  | some m =>
    have locking := guarded.locking connected
    generalize s.lock = told at locking ⊢
    cases locking with
    | young held young => exact guarded.refl
    | refused due stillDue manager locks attempted guards => exact guards
    | replaced due replaces attempted guards => exact guards

theorem Guarded.afterLocks (guarded : s.Guarded) (count : Nat) : s.Guards (s.afterLocks count) := by
  induction count generalizing s with
  | zero => exact guarded.refl
  | succ count ih =>
    have first := guarded.lock
    rw [afterLocks_succ]
    exact first.trans (ih first.guarded)

theorem Guarded.lockMany (guarded : s.Guarded) (count : Nat) : s.Guards (s.lockMany count).2 := by
  cases connected : s.manager with
  | none =>
    rw [SessionScript.lockMany, withManager, connected]
    exact guarded.refl
  | some m =>
    obtain ⟨results, answered, -⟩ := lockMany_in_turn connected count
    rw [answered]
    exact guarded.afterLocks count

/-- The steps of callers that leave the lock session to the manager: they do not close the session
in the slot, open no lock session beside it and do not shut the manager down. -/
def SparesLock (s : SessionScript) : SessionStep → Prop
  | .connect => s.manager = none
  | .create kind _ => kind ≠ .lock
  | .closeSession id => ∀ slot, s.slot? = some slot → slot.session ≠ id
  | .shutdown => s.manager = none
  | _ => True

/-- What a script can come to by such steps. -/
inductive Reaches (first : SessionScript) : SessionScript → Prop
  | start : Reaches first first
  | step {s : SessionScript} (reaches : Reaches first s) (step : SessionStep)
      (spares : s.SparesLock step) : Reaches first (s.run step).2

theorem Guarded.run (guarded : s.Guarded) {step : SessionStep} (spares : s.SparesLock step) :
    s.Guards (s.run step).2 := by
  cases step with
  | setUnreachable value => exact guarded.switched rfl rfl rfl
  | failOpens count => exact guarded.switched rfl rfl rfl
  | failProbes count => exact guarded.switched rfl rfl rfl
  | connect => exact guarded.connect spares
  | create kind timeout => exact guarded.create spares timeout
  | lock => exact guarded.lock
  | lockMany count => exact guarded.lockMany count
  | subscribe timeout name => exact guarded.subscribe timeout name
  | closeHandle name => exact guarded.closeHandle name
  | closeSession id => exact guarded.closeSession spares
  | advance ms =>
    exact guarded.passed ⟨guarded.recorded.follows rfl rfl rfl, rfl, Nat.le_add_right _ _⟩
  | livePeriod => exact guarded.refl
  | shutdown =>
    have none : s.manager = none := spares
    rw [SessionScript.run, SessionScript.shutdown, withManager, none]
    exact guarded.refl
  | primary =>
    rw [SessionScript.run, withManager]
    split <;> exact guarded.refl
  | inspectHandle name =>
    rw [SessionScript.run]
    split <;> exact guarded.refl
  | probe id =>
    rw [SessionScript.run, withSession]
    split
    · exact guarded.refl
    split <;> exact guarded.refl
  | inspectSession id =>
    rw [SessionScript.run, withSession]
    split <;> exact guarded.refl

theorem Guarded.reaches (guarded : s.Guarded) (reaches : s.Reaches s') : s.Guards s' := by
  induction reaches with
  | start => exact guarded.refl
  | step _ step spares ih => exact ih.trans (ih.guarded.run spares)

theorem guarded_start (connection : Connection) (connectionTimeout : Duration)
    (settings : SessionSettings) (chance : Nat → Nat) :
    (start connection connectionTimeout settings chance).Guarded where
  recorded := recorded_empty
  empty _ := rfl
  full := nofun
  past := nofun
  servers := nofun
  handles := nofun

/-- What holds of the lock slot whenever no call is running: its session is the only open lock
session and serves requests, the next call gives it back at once while it is young, and when it is
due, the call makes attempts and either replaces it or keeps it, still due. -/
structure LockSafe (s : SessionScript) : Prop where
  only : s.ensemble.openLocks.map (·.id) = (s.slot?.map (·.session)).toList
  serves : ∀ slot, s.slot? = some slot →
    s.ensemble.probe slot.session = .ok () ∧ slot.createdAt ≤ s.surroundings.now
  young : ∀ slot, s.slot? = some slot →
    s.surroundings.now ≤ slot.createdAt + 300000 →
    s.run .lock = (.session slot.session, s)
  due : s.manager.isSome → s.IsDue →
    s.ensemble.attempts < (s.run .lock).2.ensemble.attempts ∧
      ((∃ id, (s.run .lock).1 = .session id ∧ s.Replaces (s.run .lock).2 id) ∨
        ∃ reason, (s.run .lock).1 = .failed (.unavailable reason) ∧
          (s.run .lock).2.manager = s.manager ∧
          (s.run .lock).2.ensemble.openLocks = s.ensemble.openLocks ∧ (s.run .lock).2.IsDue)
  success : ∀ id, (s.run .lock).1 = .session id →
    (s.run .lock).2.slot?.map (·.session) = some id

theorem Guarded.lock_young (guarded : s.Guarded) {slot : LockSlot} (held : s.slot? = some slot)
    (young : ¬s.IsDue) : s.run .lock = (.session slot.session, s) := by
  cases connected : s.manager with
  | none =>
    rw [slot?, connected] at held
    cases held
  | some m =>
    have locking := guarded.locking connected
    rw [SessionScript.run]
    generalize s.lock = told at locking ⊢
    cases locking with
    | @young other held' _ => rw [Option.some.inj (held.symm.trans held')]
    | refused due => exact absurd due young
    | replaced due => exact absurd due young

theorem Guarded.lock_due (guarded : s.Guarded) (connected : s.manager.isSome) (due : s.IsDue) :
    s.ensemble.attempts < (s.run .lock).2.ensemble.attempts ∧
      ((∃ id, (s.run .lock).1 = .session id ∧ s.Replaces (s.run .lock).2 id) ∨
        ∃ reason, (s.run .lock).1 = .failed (.unavailable reason) ∧
          (s.run .lock).2.manager = s.manager ∧
          (s.run .lock).2.ensemble.openLocks = s.ensemble.openLocks ∧
          (s.run .lock).2.IsDue) := by
  obtain ⟨m, manager⟩ := Option.isSome_iff_exists.1 connected
  have locking := guarded.locking manager
  rw [SessionScript.run]
  generalize s.lock = told at locking ⊢
  cases locking with
  | young _ notDue => exact absurd due notDue
  | refused _ stillDue manager locks attempted =>
    exact ⟨attempted, .inr ⟨_, rfl, manager, locks, stillDue⟩⟩
  | replaced _ replaces attempted => exact ⟨attempted, .inl ⟨_, rfl, replaces⟩⟩

theorem Guarded.slot?_lock (guarded : s.Guarded) {id : Nat}
    (told : (s.run .lock).1 = .session id) :
    (s.run .lock).2.slot?.map (·.session) = some id := by
  cases connected : s.manager with
  | none =>
    rw [SessionScript.run, lock_unconnected connected] at told
    cases told
  | some m =>
    have locking := guarded.locking connected
    rw [SessionScript.run] at told ⊢
    generalize s.lock = answered at locking told ⊢
    cases locking with
    | young held _ =>
      rw [held, ← SessionAnswer.session.inj told]
      rfl
    | refused => cases told
    | replaced _ replaces =>
      rw [replaces.slot, ← SessionAnswer.session.inj told]
      rfl

theorem Guarded.lockSafe (guarded : s.Guarded) : s.LockSafe where
  only := by
    obtain ⟨old, only, same⟩ := guarded.openLocks_eq
    rw [only, ← same]
    cases old <;> rfl
  serves slot held := by
    obtain ⟨x, only, same, serves⟩ := guarded.full slot held
    have isOpen : x ∈ s.ensemble.openLocks := by simp [only]
    rw [← same]
    exact ⟨guarded.recorded.probe_eq isOpen serves, guarded.past slot held⟩
  young slot held young :=
    guarded.lock_young held fun due => absurd (due slot held) (Nat.not_lt.2 young)
  due connected due := guarded.lock_due connected due
  success _ told := guarded.slot?_lock told

end SessionScript

/-- Whatever fails and however time passes, the slot is safe as long as callers leave the lock
session to the manager; and once it holds a session, it always does, and no moment between the
events from then on is without an open lock session that serves requests. -/
theorem lock_slot_safe {connection : Connection} {connectionTimeout : Duration}
    {settings : SessionSettings} {chance : Nat → Nat} {s : SessionScript}
    (reaches : (SessionScript.start connection connectionTimeout settings chance).Reaches s) :
    s.LockSafe ∧ (s.slot? ≠ none → ∀ s', s.Reaches s' →
      s'.slot? ≠ none ∧ ∀ k, s.ensemble.log.length ≤ k → s'.ensemble.LockedAt k) := by
  have first := SessionScript.guarded_start connection connectionTimeout settings chance
  have guarded := (first.reaches reaches).guarded
  refine ⟨guarded.lockSafe, ?_⟩
  intro has s' onward
  have guards := guarded.reaches onward
  exact ⟨guards.held has, guards.locked has⟩

/-- A lock session outlives its period: the call at that time fails four attempts and keeps it, the
next call replaces it. -/
theorem lock_slot_safe_rotated : ∃ s s' : SessionScript, SessionScript.single.Reaches s ∧
    s.slot? = some ⟨3, 0⟩ ∧ s.Reaches s' ∧ s'.slot?.map (·.session) = some 4 ∧
    s'.ensemble.log = s.ensemble.log ++ [.opened 4, .closed 3] ∧ s.LockSafe ∧ s'.LockSafe ∧
    s'.ensemble.LockedAt 4 := by
  have connected : SessionScript.single.Reaches _ := .step .start .connect rfl
  have locked := connected.step .lock trivial
  let s := ((SessionScript.single.run .connect).2.run .lock).2
  have expired : s.Reaches _ := .step (.step .start (.advance 300001) trivial) (.failOpens 4) trivial
  have replaced := (expired.step .lock trivial).step .lock trivial
  have later := (((locked.step (.advance 300001) trivial).step (.failOpens 4) trivial).step .lock
    trivial).step .lock trivial
  have safe := lock_slot_safe locked
  have held : s.slot? = some ⟨3, 0⟩ := by decide +kernel
  have holds : s.slot? ≠ none := by simp [held]
  have few : s.ensemble.log.length ≤ 4 := by decide +kernel
  exact ⟨s, _, locked, held, replaced, by decide +kernel, by decide +kernel, safe.1,
    (lock_slot_safe later).1, (safe.2 holds _ replaced).2 4 few⟩

end Cutover
