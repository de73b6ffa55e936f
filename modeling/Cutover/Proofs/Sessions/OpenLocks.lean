import Cutover.Proofs.Sessions.Accounts
import Cutover.Proofs.Sessions.Attempts

set_option autoImplicit false

namespace Cutover

open Ensemble

namespace Ensemble

variable {e e' e'' : Ensemble} {id k : Nat} {ε : Type} {params : SessionParams}

/-- Events and sessions are only added; sessions stay what they are, open or closed. -/
structure Follows (e e' : Ensemble) : Prop where
  recorded : e'.Recorded
  log : e.log <+: e'.log
  kept : ∀ x ∈ e.sessions, ∃ y ∈ e'.sessions,
    y.id = x.id ∧ y.params = x.params ∧ y.failsProbe = x.failsProbe

theorem Recorded.follows (recorded : e.Recorded) (sessions : e'.sessions = e.sessions)
    (lastId : e'.lastId = e.lastId) (log : e'.log = e.log) : e.Follows e' where
  recorded := recorded.changed sessions lastId log
  log := log ▸ List.prefix_rfl
  kept x member := ⟨x, sessions ▸ member, rfl, rfl, rfl⟩

theorem Follows.trans (first : e.Follows e') (second : e'.Follows e'') : e.Follows e'' where
  recorded := second.recorded
  log := first.log.trans second.log
  kept x member := by
    obtain ⟨y, inside, id, params, failsProbe⟩ := first.kept x member
    obtain ⟨z, inside', id', params', failsProbe'⟩ := second.kept y inside
    exact ⟨z, inside', id'.trans id, params'.trans params, failsProbe'.trans failsProbe⟩

theorem Adds.follows {new : List Session} (recorded : e.Recorded) (adds : e.Adds e' new) :
    e.Follows e' where
  recorded := recorded.adds adds
  log := by
    rw [adds.log]
    exact List.prefix_append _ _
  kept x member := by
    refine ⟨x, ?_, rfl, rfl, rfl⟩
    rw [adds.sessions]
    exact List.mem_append_left _ member

theorem Tries.follows {answer : Except ε Nat} (recorded : e.Recorded)
    (tries : e.Tries e' params answer) : e.Follows e' := by
  cases tries with
  | refused closed adds => exact adds.follows recorded
  | opened closed adds => exact adds.follows recorded

theorem Recorded.follows_close (recorded : e.Recorded) (id : Nat) : e.Follows (e.close id) where
  recorded := recorded.close id
  log := recorded.log_close id
  kept x member := by
    refine ⟨x.closedIf id, ?_, by simp, by simp, by simp⟩
    rw [recorded.sessions_close]
    exact List.mem_map_of_mem member

theorem Recorded.follows_closeAll (recorded : e.Recorded) (ids : List Nat) :
    e.Follows (e.closeAll ids) := by
  induction ids generalizing e with
  | nil => exact recorded.follows rfl rfl rfl
  | cons id rest ih =>
    have first := recorded.follows_close id
    exact first.trans (ih first.recorded)

theorem attempts_closeAll (e : Ensemble) (ids : List Nat) :
    (e.closeAll ids).attempts = e.attempts := by
  induction ids generalizing e with
  | nil => rfl
  | cons id rest ih => exact (ih (e.close id)).trans (e.attempts_close id)

def openLocks (e : Ensemble) : List Session := e.openSessions.filter (·.params.kind = .lock)

theorem mem_openLocks {x : Session} :
    x ∈ e.openLocks ↔ x ∈ e.sessions ∧ x.closed = false ∧ x.params.kind = .lock := by
  simp only [openLocks, openSessions, List.mem_filter, Bool.not_eq_true', decide_eq_true_eq,
    and_assoc]

theorem openLocks_of_sessions (same : e'.sessions = e.sessions) : e'.openLocks = e.openLocks := by
  rw [openLocks, openLocks, openSessions, openSessions, same]

theorem Adds.openLocks {new : List Session} (adds : e.Adds e' new) :
    e'.openLocks = e.openLocks ++ (new.filter (!·.closed)).filter (·.params.kind = .lock) := by
  simp [Ensemble.openLocks, openSessions, adds.sessions]

/-- Of the sessions that attempts add, only the one that serves requests stays open. -/
theorem filter_open_of_closed {failed : List Session} (closed : ∀ x ∈ failed, x.closed = true) :
    failed.filter (!·.closed) = [] := by
  rw [List.filter_eq_nil_iff]
  intro x member
  simp [closed x member]

theorem Tries.openLocks_of_error {fault : ε} (tries : e.Tries e' params (.error fault)) :
    e'.openLocks = e.openLocks := by
  cases tries with
  | refused closed adds => rw [adds.openLocks, filter_open_of_closed closed]; simp

theorem Tries.openLocks_of_other {answer : Except ε Nat} (other : params.kind ≠ .lock)
    (tries : e.Tries e' params answer) : e'.openLocks = e.openLocks := by
  cases tries with
  | refused closed adds => rw [adds.openLocks, filter_open_of_closed closed]; simp
  | opened closed adds =>
    rw [adds.openLocks, List.filter_append, filter_open_of_closed closed]
    simp [other]

theorem Tries.openLocks_of_lock (lock : params.kind = .lock)
    (tries : e.Tries e' params (.ok id : Except ε Nat)) :
    e'.openLocks = e.openLocks ++ [⟨id, params, false, false⟩] := by
  cases tries with
  | opened closed adds =>
    rw [adds.openLocks, List.filter_append, filter_open_of_closed closed]
    simp [lock]

theorem Recorded.openLocks_close (recorded : e.Recorded) (id : Nat) :
    (e.close id).openLocks = e.openLocks.filter (·.id ≠ id) := by
  rw [openLocks, recorded.sound.openSessions_close, openLocks, List.filter_filter,
    List.filter_filter]
  simp only [Bool.and_comm]

theorem Recorded.openLocks_close_other (recorded : e.Recorded) {x : Session}
    (member : x ∈ e.sessions) (other : x.params.kind ≠ .lock) :
    (e.close x.id).openLocks = e.openLocks := by
  rw [recorded.openLocks_close, List.filter_eq_self]
  intro y inside
  rw [mem_openLocks] at inside
  rw [decide_eq_true_eq]
  intro same
  rw [recorded.unique inside.1 member same] at inside
  exact other inside.2.2

theorem Recorded.probe_eq (recorded : e.Recorded) {x : Session} (isOpen : x ∈ e.openLocks)
    (serves : x.failsProbe = false) : e.probe x.id = .ok () := by
  rw [mem_openLocks] at isOpen
  rw [probe, recorded.session? isOpen.1]
  simp [isOpen.2.1, serves]

/-- After the first `k` events a lock session is open that serves requests. -/
def LockedAt (e : Ensemble) (k : Nat) : Prop :=
  ∃ x ∈ e.sessions, x.params.kind = .lock ∧ x.failsProbe = false ∧
    .opened x.id ∈ e.log.take k ∧ .closed x.id ∉ e.log.take k

theorem LockedAt.follows (locked : e.LockedAt k) (within : k ≤ e.log.length)
    (follows : e.Follows e') : e'.LockedAt k := by
  obtain ⟨x, member, kind, serves, opened, notClosed⟩ := locked
  obtain ⟨y, inside, id, params, failsProbe⟩ := follows.kept x member
  obtain ⟨more, log⟩ := follows.log
  have past : e'.log.take k = e.log.take k := by
    rw [← log, List.take_append_of_le_length within]
  refine ⟨y, inside, ?_, ?_, ?_, ?_⟩
  · rw [params, kind]
  · rw [failsProbe, serves]
  · rw [past, id]
    exact opened
  · rw [past, id]
    exact notClosed

theorem prefix_take {log log' : List SessionEvent} (before : log <+: log')
    (after : log.length ≤ k) : log <+: log'.take k := by
  obtain ⟨more, rfl⟩ := before
  rw [List.take_append, List.take_of_length_le after]
  exact List.prefix_append _ _

/-- A lock session that was opened before and is open still was open all the time. -/
theorem Follows.lockedAt (recorded : e.Recorded) (follows : e.Follows e') {x : Session}
    (before : x ∈ e.openLocks) (still : x ∈ e'.openLocks) (serves : x.failsProbe = false)
    (after : e.log.length ≤ k) : e'.LockedAt k := by
  rw [mem_openLocks] at before still
  have opened : .opened x.id ∈ e.log := recorded.opened_mem.2 (List.mem_map_of_mem before.1)
  have notClosed : .closed x.id ∉ e'.log := by
    rw [follows.recorded.closed x still.1, still.2.1]
    decide
  refine ⟨x, still.1, still.2.2, serves, ?_, ?_⟩
  · exact (prefix_take follows.log after).subset opened
  · intro closed
    exact notClosed (List.mem_of_mem_take closed)

def Other (e : Ensemble) (id : Nat) : Prop :=
  ∃ x ∈ e.sessions, x.id = id ∧ x.params.kind ≠ .lock

theorem Other.follows (other : e.Other id) (follows : e.Follows e') : e'.Other id := by
  obtain ⟨x, member, same, kind⟩ := other
  obtain ⟨y, inside, sameId, params, -⟩ := follows.kept x member
  refine ⟨y, inside, sameId.trans same, ?_⟩
  rw [params]
  exact kind

theorem Tries.other (kind : params.kind ≠ .lock)
    (tries : e.Tries e' params (.ok id : Except ε Nat)) : e'.Other id := by
  cases tries with
  | opened closed adds =>
    refine ⟨⟨id, params, false, false⟩, ?_, rfl, kind⟩
    simp [adds.sessions]

/-- The events of a replacement: the new session is opened before the old one, if there is one, is
closed, and neither event came before. -/
structure Swaps (e e' : Ensemble) (old : Option Nat) (id : Nat) (earlier : List SessionEvent) :
    Prop where
  log : e'.log = earlier ++ .opened id :: (old.map .closed).toList
  before : e.log <+: earlier
  notOpened : .opened id ∉ earlier
  notClosed : ∀ o, old = some o → .closed o ∉ earlier

theorem Tries.lastId_lt (tries : e.Tries e' params (.ok id : Except ε Nat)) : e.lastId < id := by
  cases tries with
  | @opened _ failed closed adds =>
    have member : ⟨id, params, false, false⟩ ∈ failed ++ [⟨id, params, false, false⟩] := by simp
    exact adds.lastId_lt member

theorem Tries.unknown (recorded : e.Recorded) (tries : e.Tries e' params (.ok id : Except ε Nat)) :
    e.session? id = none := by
  have new := tries.lastId_lt
  rw [session?, List.find?_eq_none]
  intro x member
  have given := (recorded.given member).2
  simp only [decide_eq_true_eq]
  omega

theorem Tries.swaps (recorded : e.Recorded) (tries : e.Tries e' params (.ok id : Except ε Nat)) :
    ∃ earlier, e.Swaps e' none id earlier := by
  have recorded' := tries.recorded recorded
  cases tries with
  | @opened _ failed closed adds =>
    have log : e'.log = e.log ++ failed.flatMap Session.story ++ [.opened id] := by
      rw [adds.log, List.flatMap_append, ← List.append_assoc]
      rfl
    refine ⟨e.log ++ failed.flatMap Session.story, log, List.prefix_append _ _, ?_, nofun⟩
    intro early
    have distinct : (e'.log.filterMap SessionEvent.openedId?).Nodup := by
      rw [recorded'.opened]
      exact List.nodup_range'
    rw [log, List.filterMap_append, List.nodup_append] at distinct
    have inEarlier : id ∈ (e.log ++ failed.flatMap Session.story).filterMap
        SessionEvent.openedId? := List.mem_filterMap.2 ⟨_, early, rfl⟩
    exact distinct.2.2 id inEarlier id (by simp [SessionEvent.openedId?]) rfl

theorem Tries.replaces (recorded : e.Recorded) (lock : params.kind = .lock)
    (tries : e.Tries e' params (.ok id : Except ε Nat)) {old : Option Session}
    (only : e.openLocks = old.toList) :
    (e'.closeAll (old.map (·.id)).toList).openLocks = [⟨id, params, false, false⟩] ∧
      ∃ earlier, e.Swaps (e'.closeAll (old.map (·.id)).toList) (old.map (·.id)) id earlier := by
  have locks := tries.openLocks_of_lock lock
  have recorded' := tries.recorded recorded
  have new := tries.lastId_lt
  obtain ⟨earlier, swaps⟩ := tries.swaps recorded
  rw [only] at locks
  cases old with
  | none => exact ⟨locks, earlier, swaps⟩
  | some x =>
    have before : x ∈ e.openLocks := by simp [only]
    have still : x ∈ e'.openLocks := by simp [locks]
    rw [mem_openLocks] at before still
    have given := (recorded.given before.1).2
    have apart : id ≠ x.id := by omega
    have notClosed : .closed x.id ∉ e'.log := by
      rw [recorded'.closed x still.1, still.2.1]
      decide
    constructor
    · show (e'.close x.id).openLocks = _
      rw [recorded'.openLocks_close, locks]
      simp [apart]
    · refine ⟨earlier, ?_, swaps.before, swaps.notOpened, ?_⟩
      · change (e'.close x.id).log = _
        rcases recorded'.close_cases x.id with ⟨settled, -⟩ | ⟨-, same⟩
        · have closed := settled x still.1 rfl
          rw [still.2.1] at closed
          exact nomatch closed
        · rw [same]
          simp [swaps.log]
      · rintro o ⟨⟩ early
        apply notClosed
        rw [swaps.log]
        exact List.mem_append_left _ early

theorem Swaps.lockedAt (recorded : e.Recorded) (follows : e.Follows e') {x y : Session}
    {earlier : List SessionEvent} (swaps : e.Swaps e' (some x.id) y.id earlier)
    (before : x ∈ e.openLocks) (serves : x.failsProbe = false)
    (now : y ∈ e'.openLocks) (serves' : y.failsProbe = false)
    (after : e.log.length ≤ k) : e'.LockedAt k := by
  rw [mem_openLocks] at before now
  have log : e'.log = (earlier ++ [.opened y.id]) ++ [.closed x.id] := by simp [swaps.log]
  rcases Nat.lt_or_ge k e'.log.length with during | done
  · obtain ⟨z, inside, id, params, failsProbe⟩ := follows.kept x before.1
    have opened : .opened x.id ∈ e.log := recorded.opened_mem.2 (List.mem_map_of_mem before.1)
    refine ⟨z, inside, ?_, ?_, ?_, ?_⟩
    · rw [params, before.2.2]
    · rw [failsProbe, serves]
    · rw [id]
      exact (prefix_take follows.log after).subset opened
    · rw [id]
      intro closed
      rw [log, List.length_append, List.length_singleton] at during
      rw [log, List.take_append_of_le_length (by omega)] at closed
      rcases List.mem_append.1 (List.mem_of_mem_take closed) with early | last
      · exact swaps.notClosed x.id rfl early
      · simp at last
  · have opened : .opened y.id ∈ e'.log := by simp [swaps.log]
    have notClosed : .closed y.id ∉ e'.log := by
      rw [follows.recorded.closed y now.1, now.2.1]
      decide
    refine ⟨y, now.1, now.2.2, serves', ?_, ?_⟩
    · rw [List.take_of_length_le done]
      exact opened
    · rw [List.take_of_length_le done]
      exact notClosed

end Ensemble

namespace Surroundings

variable {w w' w'' : Surroundings}

/-- The open lock sessions are the same. -/
structure Spares (w w' : Surroundings) : Prop where
  follows : w.ensemble.Follows w'.ensemble
  locks : w'.ensemble.openLocks = w.ensemble.openLocks
  now : w.now ≤ w'.now

theorem spares_refl (recorded : w.ensemble.Recorded) : w.Spares w :=
  ⟨recorded.follows rfl rfl rfl, rfl, Nat.le_refl _⟩

theorem Spares.trans (first : w.Spares w') (second : w'.Spares w'') : w.Spares w'' :=
  ⟨first.follows.trans second.follows, second.locks.trans first.locks,
    first.now.trans second.now⟩

theorem spares_closeAll (recorded : w.ensemble.Recorded) {ids : List Nat}
    (others : ∀ id ∈ ids, w.ensemble.Other id) : w.Spares (w.closeAll ids) := by
  induction ids generalizing w with
  | nil => exact spares_refl recorded
  | cons id rest ih =>
    obtain ⟨x, member, rfl, kind⟩ := others id List.mem_cons_self
    have follows := recorded.follows_close x.id
    have first : w.Spares { w with ensemble := w.ensemble.close x.id } :=
      ⟨follows, recorded.openLocks_close_other member kind, Nat.le_refl _⟩
    have later : ∀ id ∈ rest, (w.ensemble.close x.id).Other id := by
      intro id inRest
      exact (others id (List.mem_cons_of_mem _ inRest)).follows follows
    exact first.trans (ih (w := { w with ensemble := w.ensemble.close x.id })
      follows.recorded later)

end Surroundings

namespace SessionFactory

variable {f : SessionFactory} {w w' : Surroundings} {kind : SessionKind} {timeout : Duration}

theorem spares_of_openSession (other : kind ≠ .lock) (recorded : w.ensemble.Recorded) :
    w.Spares (f.openSession kind timeout w).2 := by
  have tries := f.openSession_tries kind timeout recorded
  have kindSame : (f.params kind timeout).kind ≠ .lock := other
  exact ⟨tries.follows recorded, tries.openLocks_of_other kindSame,
    f.now_le_openSession kind timeout w⟩

theorem other_of_openSession (other : kind ≠ .lock) (recorded : w.ensemble.Recorded) {id : Nat}
    (result : f.openSession kind timeout w = (.ok id, w')) : w'.ensemble.Other id := by
  have tries := f.openSession_tries kind timeout recorded
  have kindSame : (f.params kind timeout).kind ≠ .lock := other
  rw [result] at tries
  exact tries.other kindSame

end SessionFactory

end Cutover
