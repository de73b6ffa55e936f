import Cutover.Proofs.Sessions.Callers
import Cutover.Proofs.Sessions.Failures

set_option autoImplicit false

namespace Cutover

namespace Ensemble

variable {e e' : Ensemble} {id : Nat} {params : SessionParams}

def pending (e : Ensemble) : Nat := e.failingOpens + e.failingProbes

theorem Arises.nodup_log (arises : e.Arises) : e.log.Nodup := by
  induction arises with
  | empty => exact List.nodup_nil
  | @opened e arises params nodup =>
    have recorded := arises.recorded
    rcases result : e.openSession params with ⟨fault | id, e'⟩
    · have log := (adds_of_openSession_error result).log
      rw [List.flatMap_nil, List.append_nil] at log
      rw [log]
      exact nodup
    · obtain ⟨failsProbe, adds⟩ := adds_of_openSession_ok result
      have new := adds.lastId_lt (List.mem_singleton_self _)
      have fresh : .opened id ∉ e.log := by
        rw [recorded.opened_mem, recorded.ids, List.mem_range'_1]
        have after : e.lastId < id := new
        omega
      have log : e'.log = e.log ++ [.opened id] := adds.log
      rw [log]
      exact (List.perm_append_singleton _ _).nodup_iff.2 (List.nodup_cons.2 ⟨fresh, nodup⟩)
  | @closed e arises id nodup =>
    rcases arises.recorded.close_cases id with ⟨-, same⟩ | ⟨⟨x, member, sameId, isOpen⟩, same⟩
    · rw [same]
      exact nodup
    · have fresh : .closed id ∉ e.log := by
        rw [← sameId, arises.recorded.closed x member, isOpen]
        exact Bool.false_ne_true
      rw [same]
      exact (List.perm_append_singleton _ _).nodup_iff.2 (List.nodup_cons.2 ⟨fresh, nodup⟩)
  | disturbed arises unreachable opens probes nodup => exact nodup

theorem Arises.closeAll (arises : e.Arises) (ids : List Nat) : (e.closeAll ids).Arises := by
  induction ids generalizing e with
  | nil => exact arises
  | cons id rest ih => exact ih (arises.closed id)

theorem Follows.known (follows : e.Follows e') (known : id ∈ e.sessions.map (·.id)) :
    id ∈ e'.sessions.map (·.id) := by
  obtain ⟨x, member, rfl⟩ := List.mem_map.1 known
  obtain ⟨y, inside, same, -⟩ := follows.kept x member
  exact List.mem_map.2 ⟨y, inside, same⟩

theorem Follows.unknown (follows : e.Follows e') (unknown : e'.session? id = none) :
    e.session? id = none := by
  rw [session?, List.find?_eq_none] at unknown ⊢
  intro x member
  obtain ⟨y, inside, same, -⟩ := follows.kept x member
  rw [← same]
  exact unknown y inside

theorem Recorded.le_lastId (recorded : e.Recorded) (known : id ∈ e.sessions.map (·.id)) :
    id ≤ e.lastId := by
  obtain ⟨x, member, rfl⟩ := List.mem_map.1 known
  exact (recorded.given member).2

theorem Recorded.closed_mem_close (recorded : e.Recorded)
    (known : id ∈ e.sessions.map (·.id)) : .closed id ∈ (e.close id).log := by
  obtain ⟨x, member, rfl⟩ := List.mem_map.1 known
  have inside : x.closedIf x.id ∈ (e.close x.id).sessions := by
    rw [recorded.sessions_close]
    exact List.mem_map_of_mem member
  have told := ((recorded.close x.id).closed _ inside).2 (Session.closed_closedIf.2 (.inr rfl))
  rwa [Session.id_closedIf] at told

theorem Recorded.closed_mem_closeAll (recorded : e.Recorded) {ids : List Nat} (among : id ∈ ids)
    (known : id ∈ e.sessions.map (·.id)) : .closed id ∈ (e.closeAll ids).log := by
  induction ids generalizing e with
  | nil => exact nomatch among
  | cons other rest ih =>
    have first := recorded.follows_close other
    rcases List.mem_cons.1 among with rfl | later
    · exact (first.recorded.follows_closeAll rest).log.subset (recorded.closed_mem_close known)
    · exact ih first.recorded later (first.known known)

/-- Of sessions that are closed each is told to be closed once, even one that was closed before. -/
theorem Arises.count_closed (arises : e.Arises) {ids : List Nat} (among : id ∈ ids)
    (known : id ∈ e.sessions.map (·.id)) : (e.closeAll ids).log.count (.closed id) = 1 :=
  List.count_eq_one_of_mem (arises.closeAll ids).nodup_log
    (arises.recorded.closed_mem_closeAll among known)

theorem Sound.openSessions_closeAll (sound : e.Sound) (ids : List Nat) :
    (e.closeAll ids).openSessions = e.openSessions.filter (·.id ∉ ids) := by
  induction ids generalizing e with
  | nil => exact (List.filter_eq_self.2 fun x _ => by simp).symm
  | cons id rest ih =>
    have later := ih (sound.close id)
    rw [sound.openSessions_close, List.filter_filter] at later
    refine later.trans (List.filter_congr fun x _ => ?_)
    simp [Bool.and_comm]

theorem Recorded.follows_openSession (recorded : e.Recorded) (params : SessionParams) :
    e.Follows (e.openSession params).2 := by
  obtain ⟨new, adds⟩ := e.exists_adds_openSession params
  exact adds.follows recorded

theorem Tries.known {ε : Type} (tries : e.Tries e' params (.ok id : Except ε Nat)) :
    id ∈ e'.sessions.map (·.id) := by
  cases tries with
  | opened closed adds => simp [adds.sessions]

end Ensemble

open Ensemble

namespace Surroundings

variable {w : Surroundings}

theorem arises_attempt (arises : w.ensemble.Arises) (params : SessionParams) :
    (w.attempt params).2.ensemble.Arises := by
  have opened := arises.opened params
  rw [attempt]
  split
  · next result =>
    rw [result] at opened
    exact opened
  · next id e result =>
    rw [result] at opened
    split
    · exact opened
    · exact opened.closed id

theorem arises_attempts (params : SessionParams) (left : Nat) (arises : w.ensemble.Arises) :
    (attempts params left w).2.ensemble.Arises := by
  induction left generalizing w with
  | zero => exact arises_attempt arises params
  | succ left ih =>
    have first := arises_attempt arises params
    rw [attempts]
    split
    · next id w' result =>
      rw [result] at first
      exact first
    · next fault w' result =>
      rw [result] at first
      exact ih (w := w'.backOff _) first

theorem unreachable_attempts (params : SessionParams) (left : Nat)
    (recorded : w.ensemble.Recorded) :
    (attempts params left w).2.ensemble.unreachable = w.ensemble.unreachable := by
  induction left generalizing w with
  | zero => exact (attempt_tried recorded params).unreachable_eq
  | succ left ih =>
    have tried := attempt_tried recorded params
    have recorded' := (attempt_tries recorded params).recorded recorded
    rw [attempts]
    split
    · next id w' result =>
      rw [result] at tried
      exact tried.unreachable_eq
    · next fault w' result =>
      rw [result] at tried recorded'
      exact (ih (w := w'.backOff _) recorded').trans tried.unreachable_eq

end Surroundings

theorem SessionFactory.arises_openSession {w : Surroundings} (f : SessionFactory)
    (kind : SessionKind) (timeout : Duration) (arises : w.ensemble.Arises) :
    (f.openSession kind timeout w).2.ensemble.Arises := by
  have attempted := Surroundings.arises_attempts (f.params kind timeout) Backoff.retries arises
  rw [openSession]
  split
  · exact arises
  split
  · next result =>
    rw [result] at attempted
    exact attempted
  · next result =>
    rw [result] at attempted
    exact attempted

namespace SessionManager

variable {m m' : SessionManager} {w w' : Surroundings}

/-- The states of a connected manager and of what is around it: whatever calls are made to it, other
sessions are opened and any are closed, failures are set and time passes. -/
inductive Occurs : SessionManager → Surroundings → Prop
  | connected {factory : SessionFactory} {settings : SessionSettings} {m : SessionManager}
      {w w' : Surroundings} (arises : w.ensemble.Arises)
      (result : connect factory settings w = (.ok m, w')) : Occurs m w'
  | locked {m : SessionManager} {w : Surroundings} (occurs : Occurs m w) :
      Occurs (m.lockSession w).2.1 (m.lockSession w).2.2
  | subscribed {m : SessionManager} {w : Surroundings} (occurs : Occurs m w) (timeout : Duration) :
      Occurs m (m.subscribe timeout w).2
  | shutDown {m : SessionManager} {w : Surroundings} (occurs : Occurs m w) :
      Occurs (m.shutdown w).1 (m.shutdown w).2
  | opened {m : SessionManager} {w : Surroundings} (occurs : Occurs m w) (params : SessionParams) :
      Occurs m { w with ensemble := (w.ensemble.openSession params).2 }
  | closed {m : SessionManager} {w : Surroundings} (occurs : Occurs m w) (id : Nat) :
      Occurs m { w with ensemble := w.ensemble.close id }
  | disturbed {m : SessionManager} {w : Surroundings} (occurs : Occurs m w) (unreachable : Bool)
      (opens probes : Nat) : Occurs m { w with ensemble :=
        { w.ensemble with unreachable, failingOpens := opens, failingProbes := probes } }
  | passed {m : SessionManager} {w : Surroundings} (occurs : Occurs m w) (ms : Nat) :
      Occurs m (w.advance ms)

/-- What holds of a manager and what is around it. -/
structure Managed (m : SessionManager) (w : Surroundings) : Prop where
  arises : w.ensemble.Arises
  servers : m.factory.connection.servers ≠ []
  known : ∀ id ∈ m.slot, id ∈ w.ensemble.sessions.map (·.id)

theorem Managed.recorded (managed : m.Managed w) : w.ensemble.Recorded := managed.arises.recorded

theorem Managed.around (managed : m.Managed w) (arises : w'.ensemble.Arises)
    (follows : w.ensemble.Follows w'.ensemble) : m.Managed w' where
  arises := arises
  servers := managed.servers
  known id held := follows.known (managed.known id held)

theorem managed_connect {factory : SessionFactory} {settings : SessionSettings}
    (arises : w.ensemble.Arises) (result : connect factory settings w = (.ok m, w')) :
    m.Managed w' := by
  obtain ⟨unlocked, servers⟩ := lock_of_connect result
  have empty : m.slot = [] := by rw [slot, unlocked]; rfl
  refine ⟨?_, servers, ?_⟩
  · rw [connect] at result
    have first := factory.arises_openSession .primary settings.sessionTimeout arises
    split at result
    · cases (Prod.mk.inj result).1
    · next primary w₁ opened =>
      rw [opened] at first
      have second := factory.arises_openSession .subscription settings.maxCommitTimeout first
      split at result
      · cases (Prod.mk.inj result).1
      · next subscription w₂ opened' =>
        rw [opened'] at second
        obtain rfl := (Prod.mk.inj result).2
        exact second
  · rw [empty]
    exact fun _ held => absurd held List.not_mem_nil

theorem Managed.subscribe (managed : m.Managed w) (timeout : Duration) :
    m.Managed (m.subscribe timeout w).2 := by
  apply managed.around _ (m.spares_subscribe timeout managed.recorded).follows
  have opened := m.factory.arises_openSession .subscription timeout managed.arises
  rw [SessionManager.subscribe]
  split
  · exact managed.arises
  split
  · next result =>
    rw [result] at opened
    exact opened
  · next result =>
    rw [result] at opened
    exact opened

theorem Managed.shutdown (managed : m.Managed w) :
    (m.shutdown w).1.Managed (m.shutdown w).2 := by
  rw [shutdown_eq]
  exact ⟨managed.arises.closeAll _, managed.servers, fun _ held => absurd held List.not_mem_nil⟩

theorem arises_lockSession (m : SessionManager) (arises : w.ensemble.Arises) :
    (m.lockSession w).2.2.ensemble.Arises := by
  have opened := m.factory.arises_openSession .lock m.settings.sessionTimeout arises
  rw [lockSession]
  split
  · exact arises
  split
  · next result =>
    rw [result] at opened
    exact opened
  · next result =>
    rw [result] at opened
    rw [closeLock_eq]
    exact opened.closeAll m.slot

theorem Managed.lockSession (managed : m.Managed w) :
    (m.lockSession w).2.1.Managed (m.lockSession w).2.2 := by
  have arises := m.arises_lockSession managed.arises
  have call := m.lockCall managed.recorded
  generalize m.lockSession w = told at arises call ⊢
  obtain ⟨answer, m', w'⟩ := told
  cases call with
  | young held young => exact managed
  | refused due tries now attempted =>
    exact managed.around arises (tries.follows managed.recorded)
  | @replaced id w' due tries now attempted =>
    refine ⟨arises, managed.servers, ?_⟩
    intro other held
    obtain rfl := List.mem_singleton.1 held
    have recorded := tries.recorded managed.recorded
    exact (recorded.follows_closeAll m.slot).known tries.known

theorem Occurs.managed (occurs : m.Occurs w) : m.Managed w := by
  induction occurs with
  | connected arises result => exact managed_connect arises result
  | locked _ managed => exact managed.lockSession
  | subscribed _ timeout managed => exact managed.subscribe timeout
  | shutDown _ managed => exact managed.shutdown
  | opened _ params managed =>
    exact managed.around (managed.arises.opened params) (managed.recorded.follows_openSession params)
  | closed _ id managed =>
    exact managed.around (managed.arises.closed id) (managed.recorded.follows_close id)
  | disturbed _ unreachable opens probes managed =>
    exact managed.around (managed.arises.disturbed unreachable opens probes)
      (managed.recorded.follows rfl rfl rfl)
  | passed _ ms managed => exact managed.around managed.arises (managed.recorded.follows rfl rfl rfl)

/-- The slot is empty, or its session is more than 300 s old. -/
def Due (m : SessionManager) (now : Nat) : Prop :=
  ∀ slot, m.lock = some slot → 300000 < now - slot.createdAt

theorem due_iff {now : Nat} : m.Due now ↔ m.live? now = none := by
  rw [Due, live?, livePeriod]
  cases m.lock with
  | none => simp
  | some slot => simp only [Option.some.injEq, forall_eq', ite_eq_right_iff, reduceCtorEq, imp_false,
      Nat.not_le]

theorem Due.later {now later : Nat} (due : m.Due now) (after : now ≤ later) : m.Due later := by
  intro slot held
  have age := due slot held
  omega

/-- The answer of a call that could not open a session. -/
def Unavailable (answer : Except EnsembleError Nat) : Prop :=
  ∃ reason, answer = .error (.unavailable reason)

/-- The slot and the open sessions are as they were. -/
structure Keeps (m : SessionManager) (w : Surroundings) (m' : SessionManager) (w' : Surroundings) :
    Prop where
  slot : m' = m
  opened : w'.ensemble.openSessions = w.ensemble.openSessions

/-- The slot has a new session, and the one that was in it is closed, once. -/
structure Renews (m : SessionManager) (w : Surroundings) (m' : SessionManager) (w' : Surroundings)
    (id : Nat) : Prop where
  new : w.ensemble.session? id = none
  slot : m' = { m with lock := some ⟨id, w'.now⟩ }
  opened : w'.ensemble.openSessions =
    w.ensemble.openSessions.filter (·.id ∉ m.slot) ++ [⟨id, m.lockParams, false, false⟩]
  closed : ∀ previous ∈ m.slot, w'.ensemble.log.count (.closed previous) = 1

/-- What a call leaves that fails: everything is due as before. -/
structure Fails (m : SessionManager) (w w' : Surroundings) : Prop where
  managed : m.Managed w'
  due : m.Due w'.now
  follows : w.ensemble.Follows w'.ensemble
  unreachable : w'.ensemble.unreachable = w.ensemble.unreachable
  opened : w'.ensemble.openSessions = w.ensemble.openSessions

theorem Managed.fails (managed : m.Managed w) (due : m.Due w.now) {fault : SessionError}
    (result : Surroundings.attempts m.lockParams Backoff.retries w = (.error fault, w'))
    (opened : w'.ensemble.openSessions = w.ensemble.openSessions) :
    ∃ answer, Unavailable answer ∧ m.lockSession w = (answer, m, w') ∧ m.Fails w w' := by
  have call := lockSession_due (due_iff.1 due) managed.servers
  have arises := Surroundings.arises_attempts m.lockParams Backoff.retries managed.arises
  have follows := (Surroundings.attempts_tries m.lockParams Backoff.retries
    managed.recorded).follows managed.recorded
  have unreachable := Surroundings.unreachable_attempts m.lockParams Backoff.retries
    managed.recorded
  have later := Surroundings.now_le_attempts m.lockParams w
  rw [result] at call arises follows unreachable later
  exact ⟨_, ⟨_, rfl⟩, call, managed.around arises follows, due.later later, follows, unreachable,
    opened⟩

theorem Managed.lock_unreached (managed : m.Managed w) (due : m.Due w.now)
    (down : w.ensemble.unreachable = true) : ∃ answer w', Unavailable answer ∧
      m.lockSession w = (answer, m, w') ∧ m.Fails w w' := by
  obtain ⟨⟨fault, failed⟩, unchanged⟩ :=
    Surroundings.attempts_unreached m.lockParams Backoff.retries down
  obtain ⟨answer, unavailable, call, fails⟩ := managed.fails due (Prod.ext failed rfl) (by
    rw [unchanged]
    rfl)
  exact ⟨answer, _, unavailable, call, fails⟩

theorem Managed.lock_refused (managed : m.Managed w) (due : m.Due w.now)
    (up : w.ensemble.unreachable = false) (many : 4 ≤ w.ensemble.pending) :
    ∃ answer w', Unavailable answer ∧ m.lockSession w = (answer, m, w') ∧ m.Fails w w' ∧
      w'.ensemble.pending = w.ensemble.pending - 4 := by
  have weathers := Surroundings.attempts_weathers m.lockParams Backoff.retries managed.recorded up
  rw [pending] at many
  rcases result : Surroundings.attempts m.lockParams Backoff.retries w with ⟨fault | id, w'⟩
  · rw [result] at weathers
    have opened := weathers.openSessions
    rw [returned, List.append_nil] at opened
    obtain ⟨answer, unavailable, call, fails⟩ := managed.fails due result opened
    refine ⟨answer, w', unavailable, call, fails, ?_⟩
    rw [pending, pending, weathers.failingOpens, weathers.failingProbes, Backoff.retries]
    omega
  · rw [result] at weathers
    have few := weathers.answered.1 ⟨id, rfl⟩
    rw [Backoff.retries] at few
    omega

theorem Managed.lock_served (managed : m.Managed w) (due : m.Due w.now)
    (up : w.ensemble.unreachable = false) (few : w.ensemble.pending < 4) :
    ∃ id m' w', m.lockSession w = (.ok id, m', w') ∧ m.Renews w m' w' id := by
  have weathers := Surroundings.attempts_weathers m.lockParams Backoff.retries managed.recorded up
  have call := lockSession_due (due_iff.1 due) managed.servers
  have tries := Surroundings.attempts_tries m.lockParams Backoff.retries managed.recorded
  have arises := Surroundings.arises_attempts m.lockParams Backoff.retries managed.arises
  obtain ⟨id, answered⟩ := weathers.answered.2 few
  rcases result : Surroundings.attempts m.lockParams Backoff.retries w with ⟨fault | id', w'⟩
  · exact nomatch (congrArg Prod.fst result).symm.trans answered
  obtain rfl := Except.ok.inj ((congrArg Prod.fst result).symm.trans answered)
  rw [result] at weathers tries arises call
  have recorded := tries.recorded managed.recorded
  have follows := tries.follows managed.recorded
  refine ⟨id', _, _, call, tries.unknown managed.recorded, ?_, ?_, ?_⟩
  · rw [closeLock_eq]
    rfl
  · have apart : id' ∉ m.slot := by
      intro held
      have given := managed.recorded.le_lastId (managed.known id' held)
      have new := tries.lastId_lt
      omega
    rw [closeLock_eq]
    refine (recorded.sound.openSessions_closeAll m.slot).trans ?_
    rw [weathers.openSessions, List.filter_append, returned]
    simp [apart]
  · intro previous held
    rw [closeLock_eq]
    exact arises.count_closed held (follows.known (managed.known previous held))

/-- What calls that are made together come to. Those that find the session in the slot young are all
given it. Where it is due and the ensemble cannot be reached all of them fail. Where it can be
reached, every four pending failures fail a call; the first call that they do not suffice for puts a
new session into the slot, and that is given to this call and all after it. -/
structure Rotates (m : SessionManager) (w : Surroundings) (count : Nat)
    (told : List (Except EnsembleError Nat) × SessionManager × Surroundings) : Prop where
  young : ∀ slot, m.lock = some slot → w.now - slot.createdAt ≤ 300000 →
    told = (List.replicate count (.ok slot.session), m, w)
  unreached : m.Due w.now → w.ensemble.unreachable = true →
    told.1.length = count ∧ (∀ answer ∈ told.1, Unavailable answer) ∧ m.Keeps w told.2.1 told.2.2
  reached : m.Due w.now → w.ensemble.unreachable = false →
    ∃ refused : List (Except EnsembleError Nat),
      refused.length = min count (w.ensemble.pending / 4) ∧
      (∀ answer ∈ refused, Unavailable answer) ∧
      (count ≤ w.ensemble.pending / 4 → told.1 = refused ∧ m.Keeps w told.2.1 told.2.2) ∧
      (w.ensemble.pending / 4 < count → ∃ id,
        told.1 = refused ++ List.replicate (count - w.ensemble.pending / 4) (.ok id) ∧
        m.Renews w told.2.1 told.2.2 id)

theorem lockSessions_succ {answer : Except EnsembleError Nat}
    (first : m.lockSession w = (answer, m', w')) (count : Nat) :
    m.lockSessions w (count + 1) =
      (answer :: (m'.lockSessions w' count).1, (m'.lockSessions w' count).2) := by
  rw [lockSessions, first]

theorem lockSessions_live {id : Nat} (live : m.live? w.now = some id) (count : Nat) :
    m.lockSessions w count = (List.replicate count (.ok id), m, w) := by
  induction count with
  | zero => rfl
  | succ count ih => rw [lockSessions_succ (lockSession_live live), ih, List.replicate_succ]

theorem Fails.keeps {w'' : Surroundings} (fails : m.Fails w w') (keeps : m.Keeps w' m' w'') :
    m.Keeps w m' w'' := ⟨keeps.slot, keeps.opened.trans fails.opened⟩

theorem Fails.renews {w'' : Surroundings} {id : Nat} (fails : m.Fails w w')
    (renews : m.Renews w' m' w'' id) : m.Renews w m' w'' id where
  new := fails.follows.unknown renews.new
  slot := renews.slot
  opened := by rw [renews.opened, fails.opened]
  closed := renews.closed

theorem Managed.locks_unreached (managed : m.Managed w) (due : m.Due w.now)
    (down : w.ensemble.unreachable = true) (count : Nat) :
    (m.lockSessions w count).1.length = count ∧
      (∀ answer ∈ (m.lockSessions w count).1, Unavailable answer) ∧
      m.Keeps w (m.lockSessions w count).2.1 (m.lockSessions w count).2.2 := by
  induction count generalizing w with
  | zero => exact ⟨rfl, List.forall_mem_nil _, rfl, rfl⟩
  | succ count ih =>
    obtain ⟨answer, w', unavailable, first, fails⟩ := managed.lock_unreached due down
    obtain ⟨length, others, keeps⟩ := ih fails.managed fails.due (fails.unreachable.trans down)
    rw [lockSessions_succ first]
    exact ⟨congrArg Nat.succ length, List.forall_mem_cons.2 ⟨unavailable, others⟩,
      fails.keeps keeps⟩

theorem Managed.locks_reached (managed : m.Managed w) (due : m.Due w.now)
    (up : w.ensemble.unreachable = false) (count : Nat) :
    ∃ refused : List (Except EnsembleError Nat),
      refused.length = min count (w.ensemble.pending / 4) ∧
      (∀ answer ∈ refused, Unavailable answer) ∧
      (count ≤ w.ensemble.pending / 4 → (m.lockSessions w count).1 = refused ∧
        m.Keeps w (m.lockSessions w count).2.1 (m.lockSessions w count).2.2) ∧
      (w.ensemble.pending / 4 < count → ∃ id, (m.lockSessions w count).1 =
          refused ++ List.replicate (count - w.ensemble.pending / 4) (.ok id) ∧
        m.Renews w (m.lockSessions w count).2.1 (m.lockSessions w count).2.2 id) := by
  induction count generalizing w with
  | zero =>
    exact ⟨[], by simp, List.forall_mem_nil _, fun _ => ⟨rfl, rfl, rfl⟩,
      fun some => absurd some (Nat.not_lt_zero _)⟩
  | succ count ih =>
    rcases Nat.lt_or_ge w.ensemble.pending 4 with few | many
    · obtain ⟨id, m', w', first, renews⟩ := managed.lock_served due up few
      have live : m'.live? w'.now = some id := by
        rw [renews.slot, live?]
        simp
      have none : w.ensemble.pending / 4 = 0 := Nat.div_eq_of_lt few
      rw [lockSessions_succ first, lockSessions_live live, none]
      refine ⟨[], rfl, List.forall_mem_nil _,
        fun all => absurd all (Nat.not_succ_le_zero _), fun _ => ⟨id, ?_, renews⟩⟩
      rw [List.nil_append, Nat.sub_zero, List.replicate_succ]
    · obtain ⟨answer, w', unavailable, first, fails, pending⟩ := managed.lock_refused due up many
      obtain ⟨refused, length, others, keeps, renews⟩ :=
        ih fails.managed fails.due (fails.unreachable.trans up)
      have fewer : w.ensemble.pending / 4 = w'.ensemble.pending / 4 + 1 := by omega
      rw [lockSessions_succ first, fewer]
      refine ⟨answer :: refused, ?_, List.forall_mem_cons.2 ⟨unavailable, others⟩, ?_, ?_⟩
      · rw [List.length_cons, length, Nat.add_min_add_right]
      · intro all
        obtain ⟨answers, kept⟩ := keeps (Nat.le_of_succ_le_succ all)
        exact ⟨congrArg _ answers, fails.keeps kept⟩
      · intro some
        obtain ⟨id, answers, renewed⟩ := renews (Nat.lt_of_succ_lt_succ some)
        refine ⟨id, ?_, fails.renews renewed⟩
        rw [answers, Nat.add_sub_add_right]
        rfl

theorem Managed.rotates (managed : m.Managed w) (count : Nat) :
    m.Rotates w count (m.lockSessions w count) where
  young slot held young := by
    have live : m.live? w.now = some slot.session := by
      rw [live?, held]
      exact if_pos young
    exact lockSessions_live live count
  unreached due down := managed.locks_unreached due down count
  reached due up := managed.locks_reached due up count

/-- Calls for the lock session that are started together come to what their rotation tells,
whichever of them are given turns and in which order: once everyone has had a turn often enough, all
have their answers, and there are no other answers that they could have come to. Together they put
at most one new session into the slot. -/
theorem lockSessions_rotate_once (occurs : m.Occurs w) (count : Nat) :
    m.Rotates w count (m.lockSessions w count) ∧
    (∀ rounds : List (List Nat), (∀ round ∈ rounds, ∀ place < count, place ∈ round) →
      count * (Backoff.retries + 2) ≤ rounds.length →
      ((LockQueue.ofCalls m w count).afterTurns rounds.flatten).Answered
        (m.lockSessions w count)) ∧
    ∀ places told, ((LockQueue.ofCalls m w count).afterTurns places).Answered told →
      told = m.lockSessions w count := by
  have outcome := LockQueue.outcome_ofCalls m w count
  refine ⟨occurs.managed.rotates count, fun rounds fair enough => ?_, fun places told answered => ?_⟩
  · rw [← outcome]
    apply LockQueue.answered_of_rounds
    · intro round member place within
      rw [LockQueue.ofCalls, List.length_replicate] at within
      exact fair round member place within
    · rw [LockQueue.turns_ofCalls]
      exact enough
  · rw [← outcome, ← LockQueue.outcome_afterTurns _ places, answered.outcome_eq]

/-- Three opens and two probes are to fail when the session in the slot has outlived its period: the
first of three calls fails, and the other two are given the new session. -/
theorem lockSessions_rotate_once_pending : ∃ (m : SessionManager) (w : Surroundings),
    m.Occurs w ∧ m.lock = some ⟨3, 0⟩ ∧ w.now = 300001 ∧ w.ensemble.pending = 5 ∧
    (m.lockSessions w 3).1.map Except.toOption = [none, some 6, some 6] ∧
    (m.lockSessions w 3).2.2.ensemble.openSessions.map (·.id) = [1, 2, 6] ∧
    m.Rotates w 3 (m.lockSessions w 3) ∧
    ∀ places told, ((LockQueue.ofCalls m w 3).afterTurns places).Answered told →
      told = m.lockSessions w 3 := by
  let f : SessionFactory := ⟨⟨.zookeeper, [⟨"localhost", 2181⟩], none⟩, .ofSeconds 5, rfl⟩
  let w₀ : Surroundings := ⟨.empty, 0, fun _ => 0, 0⟩
  let settings : SessionSettings := ⟨.ofSeconds 10, .ofSeconds 60⟩
  have result : connect f settings w₀ = (.ok ⟨f, settings, 1, 2, none⟩, (connect f settings w₀).2) :=
    rfl
  have connected : Occurs ⟨f, settings, 1, 2, none⟩ (connect f settings w₀).2 :=
    .connected .empty result
  have occurs := (connected.locked.passed 300001).disturbed false 3 2
  have rotates := lockSessions_rotate_once occurs 3
  exact ⟨_, _, occurs, by decide +kernel, by decide +kernel, by decide +kernel, by decide +kernel,
    by decide +kernel, rotates.1, rotates.2.2⟩

end SessionManager

end Cutover
