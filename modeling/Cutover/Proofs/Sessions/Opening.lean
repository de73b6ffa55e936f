import Cutover.Ensemble.InMemory
import Mathlib.Data.List.Nodup
import Mathlib.Data.Multiset.Filter

set_option autoImplicit false

namespace Cutover

namespace Ensemble

variable {e e' e'' : Ensemble} {id : Nat} {ε δ : Type}

def openIds (e : Ensemble) : Multiset Nat := e.openSessions.map (·.id)

/-- Each session has an id of its own, none after the last one given. -/
structure Sound (e : Ensemble) : Prop where
  distinct : (e.sessions.map (·.id)).Nodup
  given : ∀ s ∈ e.sessions, s.id ≤ e.lastId

theorem sound_empty : empty.Sound := ⟨List.nodup_nil, nofun⟩

theorem Sound.nodup_openIds (sound : e.Sound) : e.openIds.Nodup :=
  Multiset.coe_nodup.2 ((List.filter_sublist.map Session.id).nodup sound.distinct)

theorem Sound.open_given (sound : e.Sound) {s : Session} (isOpen : s ∈ e.openSessions) :
    s.id ≤ e.lastId :=
  sound.given s (List.mem_of_mem_filter isOpen)

theorem Sound.openIds_given (sound : e.Sound) (isOpen : id ∈ e.openIds) : id ≤ e.lastId := by
  obtain ⟨s, inside, rfl⟩ := List.mem_map.1 (Multiset.mem_coe.1 isOpen)
  exact sound.open_given inside

/-- The same sessions stay open. -/
structure Settles (e e' : Ensemble) : Prop where
  sound : e'.Sound
  later : e.lastId ≤ e'.lastId
  same : e'.openSessions = e.openSessions

theorem Settles.openIds (settles : e.Settles e') : e'.openIds = e.openIds := by
  rw [Ensemble.openIds, settles.same]
  rfl

theorem Sound.settles (sound : e.Sound) (sessions : e'.sessions = e.sessions)
    (lastId : e'.lastId = e.lastId) : e.Settles e' where
  sound := ⟨sessions ▸ sound.distinct, by rw [sessions, lastId]; exact sound.given⟩
  later := lastId.ge
  same := by rw [openSessions, sessions, openSessions]

/-- What opening comes to: the same sessions stay open, or one is added with an id that was not
given before. -/
inductive Opens (e e' : Ensemble) : Except ε Nat → Prop
  | refused {fault : ε} (settles : e.Settles e') : Opens e e' (.error fault)
  | opened {s : Session} (sound : e'.Sound) (new : e.lastId < s.id) (later : s.id ≤ e'.lastId)
      (added : e'.openSessions = e.openSessions ++ [s]) : Opens e e' (.ok s.id)

theorem Settles.opens {answer : Except ε Nat} (settles : e.Settles e')
    (opens : e'.Opens e'' answer) : e.Opens e'' answer := by
  cases opens with
  | refused settles' =>
    exact .refused ⟨settles'.sound, settles.later.trans settles'.later,
      settles'.same.trans settles.same⟩
  | opened sound new later added =>
    exact .opened sound (settles.later.trans_lt new) later (settles.same ▸ added)

theorem Opens.refused_settles {fault : ε} (opens : e.Opens e' (.error fault)) : e.Settles e' := by
  cases opens with
  | refused settles => exact settles

theorem Opens.sound {answer : Except ε Nat} (opens : e.Opens e' answer) : e'.Sound := by
  cases opens with
  | refused settles => exact settles.sound
  | opened sound new later added => exact sound

theorem Opens.openIds (opens : e.Opens e' (.ok id : Except ε Nat)) :
    e'.openIds = {id} + e.openIds := by
  cases opens with
  | opened sound new later added =>
    rw [Ensemble.openIds, added, List.map_append, ← Multiset.coe_add, Multiset.add_comm]
    rfl

theorem openSession_opens (sound : e.Sound) (params : SessionParams) :
    e.Opens (e.openSession params).2 (e.openSession params).1 := by
  rw [openSession]
  split
  · exact .refused (sound.settles rfl rfl)
  split
  · exact .refused (sound.settles rfl rfl)
  · refine .opened (s := ⟨e.lastId + 1, params, false, decide (0 < e.failingProbes)⟩)
      ⟨?_, ?_⟩ e.lastId.lt_succ_self le_rfl ?_
    · rw [List.map_append, List.map_singleton]
      refine List.nodup_append.2 ⟨sound.distinct, List.nodup_singleton _, ?_⟩
      intro id inside last isLast same
      obtain ⟨s, stored, rfl⟩ := List.mem_map.1 inside
      have next : s.id = e.lastId + 1 := same.trans (List.mem_singleton.1 isLast)
      exact absurd (sound.given s stored) (by omega)
    · intro s inside
      rcases List.mem_append.1 inside with stored | isLast
      · exact (sound.given s stored).trans (Nat.le_succ _)
      · rw [List.mem_singleton.1 isLast]
    · rw [openSessions, List.filter_append, openSessions]
      rfl

theorem Sound.close (sound : e.Sound) (id : Nat) : (e.close id).Sound := by
  rw [Ensemble.close]
  split
  · exact sound
  split
  · exact sound
  · have ids : ∀ s : Session, (if s.id = id then { s with closed := true } else s).id = s.id := by
      intro s
      split <;> rfl
    refine ⟨?_, ?_⟩
    · rw [List.map_map]
      exact (congrArg List.Nodup (List.map_congr_left fun s _ => ids s)).mpr sound.distinct
    · intro s inside
      obtain ⟨old, stored, rfl⟩ := List.mem_map.1 inside
      rw [ids]
      exact sound.given old stored

theorem lastId_close (e : Ensemble) (id : Nat) : (e.close id).lastId = e.lastId := by
  rw [Ensemble.close]
  split
  · rfl
  split <;> rfl

theorem Sound.openSessions_close (sound : e.Sound) (id : Nat) :
    (e.close id).openSessions = e.openSessions.filter (·.id ≠ id) := by
  rw [Ensemble.close]
  split
  · next unknown =>
    refine (List.filter_eq_self.2 fun s isOpen => ?_).symm
    have other := List.find?_eq_none.1 unknown s (List.mem_of_mem_filter isOpen)
    exact decide_eq_true fun same => other (decide_eq_true same)
  · next found known =>
    have isFound : found.id = id :=
      of_decide_eq_true (List.find?_some (p := fun s : Session => s.id = id) known)
    split
    · next closed =>
      refine (List.filter_eq_self.2 fun s isOpen => ?_).symm
      obtain ⟨inside, opened⟩ := List.mem_filter.1 isOpen
      refine decide_eq_true fun same => ?_
      have one : s = found := List.inj_on_of_nodup_map sound.distinct inside
        (List.mem_of_find?_eq_some known) (same.trans isFound.symm)
      rw [one, closed] at opened
      exact nomatch opened
    · rw [openSessions, openSessions, List.filter_map, List.filter_filter]
      have kept : ∀ s : Session, ((fun s : Session => !s.closed) ∘ fun s : Session =>
          if s.id = id then { s with closed := true } else s) s =
            (decide (s.id ≠ id) && !s.closed) := by
        intro s
        by_cases same : s.id = id <;> simp [same]
      rw [List.filter_congr fun s _ => kept s]
      refine (List.map_congr_left fun s inside => ?_).trans (List.map_id _)
      have other := (Bool.and_eq_true_iff.1 (List.mem_filter.1 inside).2).1
      exact if_neg (of_decide_eq_true other)

theorem Sound.openIds_close (sound : e.Sound) (id : Nat) :
    (e.close id).openIds = e.openIds.filter (· ≠ id) := by
  rw [openIds, sound.openSessions_close, openIds, Multiset.filter_coe, List.filter_map]
  rfl

/-- A session that was opened, and is not open any more. -/
structure Spent (e : Ensemble) (id : Nat) : Prop where
  given : id ≤ e.lastId
  notOpen : id ∉ e.openIds

theorem Sound.spent_close (sound : e.Sound) (given : id ≤ e.lastId) : (e.close id).Spent id where
  given := (lastId_close e id).symm ▸ given
  notOpen isOpen := by
    rw [sound.openIds_close] at isOpen
    exact (Multiset.mem_filter.1 isOpen).2 rfl

theorem Spent.close (spent : e.Spent id) (sound : e.Sound) (other : Nat) :
    (e.close other).Spent id where
  given := (lastId_close e other).symm ▸ spent.given
  notOpen isOpen := by
    rw [sound.openIds_close] at isOpen
    exact spent.notOpen (Multiset.mem_filter.1 isOpen).1

theorem Spent.openIds_close (spent : e.Spent id) (sound : e.Sound) :
    (e.close id).openIds = e.openIds := by
  rw [sound.openIds_close]
  exact Multiset.filter_eq_self.2 fun other inside same => spent.notOpen (same ▸ inside)

theorem Settles.spent (settles : e.Settles e') (spent : e.Spent id) : e'.Spent id where
  given := spent.given.trans settles.later
  notOpen := settles.openIds ▸ spent.notOpen

theorem Opens.spent {answer : Except ε Nat} (opens : e.Opens e' answer) (spent : e.Spent id) :
    e'.Spent id := by
  cases opens with
  | refused settles => exact settles.spent spent
  | opened sound new later added =>
    refine ⟨(spent.given.trans new.le).trans later, ?_⟩
    rw [(Opens.opened (ε := ε) sound new later added).openIds, Multiset.mem_add,
      Multiset.mem_singleton]
    rintro (same | isOpen)
    · exact absurd (same ▸ spent.given) (Nat.not_le.2 new)
    · exact spent.notOpen isOpen

def closeAll (e : Ensemble) (ids : List Nat) : Ensemble := ids.foldl close e

theorem Sound.closeAll (sound : e.Sound) (ids : List Nat) : (e.closeAll ids).Sound := by
  induction ids generalizing e with
  | nil => exact sound
  | cons id rest ih => exact ih (sound.close id)

theorem Spent.closeAll (spent : e.Spent id) (sound : e.Sound) (ids : List Nat) :
    (e.closeAll ids).Spent id := by
  induction ids generalizing e with
  | nil => exact spent
  | cons other rest ih => exact ih (spent.close sound other) (sound.close other)

/-- A closed session is spent, whatever else is closed with it. -/
theorem Sound.spent_closeAll (sound : e.Sound) {ids : List Nat} (closed : id ∈ ids)
    (given : id ≤ e.lastId) : (e.closeAll ids).Spent id := by
  induction ids generalizing e with
  | nil => exact nomatch closed
  | cons other rest ih =>
    rcases List.mem_cons.1 closed with rfl | later
    · exact (sound.spent_close given).closeAll (sound.close id) rest
    · exact ih (sound.close other) later ((lastId_close e other).symm ▸ given)

theorem Sound.openIds_closeAll (sound : e.Sound) {ids : List Nat} {others : Multiset Nat}
    (held : e.openIds = ids + others) : (e.closeAll ids).openIds = others := by
  induction ids generalizing e with
  | nil => exact held.trans (Multiset.zero_add others)
  | cons id rest ih =>
    refine ih (sound.close id) ?_
    have front : e.openIds = id ::ₘ (rest + others) := by
      rw [held, ← Multiset.cons_coe, Multiset.cons_add]
    have distinct := sound.nodup_openIds
    rw [front, Multiset.nodup_cons] at distinct
    rw [sound.openIds_close, front, Multiset.filter_cons_of_neg (p := (· ≠ id)) _ (not_not.2 rfl)]
    exact Multiset.filter_eq_self.2 fun other inside same => distinct.1 (same ▸ inside)

theorem Sound.openIds_closeAll_spent (sound : e.Sound) {ids : List Nat}
    (spent : ∀ id ∈ ids, e.Spent id) : (e.closeAll ids).openIds = e.openIds := by
  induction ids generalizing e with
  | nil => rfl
  | cons id rest ih =>
    have first := (spent id List.mem_cons_self).openIds_close sound
    refine (ih (sound.close id) fun other later => ?_).trans first
    exact (spent other (List.mem_cons_of_mem _ later)).close sound id

/-- The sessions with these ids are open besides those that were, and no other session is opened
again. -/
structure Gains (e e' : Ensemble) (ids : List Nat) : Prop where
  sound : e'.Sound
  openIds : e'.openIds = ids + e.openIds
  spent : ∀ id, e.Spent id → e'.Spent id

theorem Settles.gains (settles : e.Settles e') : e.Gains e' [] :=
  ⟨settles.sound, settles.openIds.trans (Multiset.zero_add _).symm, fun _ => settles.spent⟩

theorem Opens.gains (opens : e.Opens e' (.ok id : Except ε Nat)) : e.Gains e' [id] :=
  ⟨opens.sound, opens.openIds, fun _ => opens.spent⟩

theorem Gains.trans {ids more : List Nat} (first : e.Gains e' ids) (second : e'.Gains e'' more) :
    e.Gains e'' (more ++ ids) where
  sound := second.sound
  openIds := by
    rw [second.openIds, first.openIds, ← Multiset.add_assoc, Multiset.coe_add]
  spent id before := second.spent id (first.spent id before)

/-- When a session is closed that was opened before, those are open that were open before it. -/
theorem Opens.close_settles (sound : e.Sound) (opens : e.Opens e' (.ok id : Except ε Nat))
    (settles : e'.Settles e'') : e.Settles (e''.close id) := by
  cases opens with
  | @opened s sound' new later added =>
    refine ⟨settles.sound.close _, ?_, ?_⟩
    · rw [lastId_close]
      exact (new.le.trans later).trans settles.later
    · rw [settles.sound.openSessions_close, settles.same, added, List.filter_append]
      have gone : [s].filter (·.id ≠ s.id) = [] := by simp
      rw [gone, List.append_nil]
      refine List.filter_eq_self.2 fun other isOpen => decide_eq_true fun same => ?_
      exact absurd (sound.open_given isOpen) (by omega)

end Ensemble

open Ensemble

namespace Surroundings

theorem attempt_opens {w : Surroundings} (sound : w.ensemble.Sound) (params : SessionParams) :
    w.ensemble.Opens (w.attempt params).2.ensemble (w.attempt params).1 := by
  have opens := openSession_opens sound params
  rw [attempt]
  split
  · next refusal e result =>
    rw [result] at opens
    exact .refused opens.refused_settles
  · next id e result =>
    rw [result] at opens
    split
    · exact opens
    · exact .refused (opens.close_settles sound (opens.sound.settles rfl rfl))

theorem attempts_opens (params : SessionParams) (left : Nat) {w : Surroundings}
    (sound : w.ensemble.Sound) :
    w.ensemble.Opens (attempts params left w).2.ensemble (attempts params left w).1 := by
  induction left generalizing w with
  | zero => exact attempt_opens sound params
  | succ left ih =>
    have first := attempt_opens sound params
    rw [attempts]
    split
    · next id w' result =>
      rw [result] at first
      exact first
    · next fault w' result =>
      rw [result] at first
      have settles := first.refused_settles
      exact settles.opens (ih (w := w'.backOff _) settles.sound)

end Surroundings

theorem SessionFactory.openSession_opens (f : SessionFactory) (kind : SessionKind)
    (timeout : Duration) {w : Surroundings} (sound : w.ensemble.Sound) :
    w.ensemble.Opens (f.openSession kind timeout w).2.ensemble
      (f.openSession kind timeout w).1 := by
  have opens := Surroundings.attempts_opens (f.params kind timeout) Backoff.retries sound
  rw [openSession]
  split
  · exact .refused (sound.settles rfl rfl)
  split
  · next id w' result =>
    rw [result] at opens
    cases opens with
    | opened sound' new later added => exact .opened sound' new later added
  · next fault w' result =>
    rw [result] at opens
    exact .refused opens.refused_settles

end Cutover
