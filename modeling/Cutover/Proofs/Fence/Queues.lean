import Cutover.Proofs.Fence.Abstract

set_option autoImplicit false

namespace Cutover

/-- Whether a request of a mode is granted behind others: it is the first, or it is shared and so
are all before it. -/
def grantedBehind (earlier : List LockMode) (mode : LockMode) : Bool :=
  earlier.isEmpty || (mode = .shared && earlier.all (· = .shared))

namespace FenceUser

/-- The modes in which the users of an event type ask for its lock. -/
def modesOf (users : List FenceUser) (eventType : String) : List LockMode :=
  (users.filter (·.eventType = eventType)).map (·.role.mode)

/-- The requests of the users of an event type, in their order. -/
def queueOf (users : List FenceUser) (eventType : String) : List LockRequest :=
  (users.filter (·.eventType = eventType)).map request

variable {A B : List FenceUser} {u v : FenceUser} {e : String}

theorem modesOf_eq (users : List FenceUser) (e : String) :
    modesOf users e = (queueOf users e).map (·.mode) := by
  rw [modesOf, queueOf, List.map_map]
  rfl

theorem queueOf_append (A B : List FenceUser) (e : String) :
    queueOf (A ++ B) e = queueOf A e ++ queueOf B e := by
  rw [queueOf, List.filter_append, List.map_append, queueOf, queueOf]

theorem queueOf_cons_self (u : FenceUser) (B : List FenceUser) :
    queueOf (u :: B) u.eventType = u.request :: queueOf B u.eventType := by
  rw [queueOf, List.filter_cons_of_pos (by simp), List.map_cons, queueOf]

theorem queueOf_cons_of_ne (apart : u.eventType ≠ e) (B : List FenceUser) :
    queueOf (u :: B) e = queueOf B e := by
  rw [queueOf, List.filter_cons_of_neg (by simpa using apart), queueOf]

theorem queueOf_replace (named : v.eventType = u.eventType) (request : v.request = u.request)
    (A B : List FenceUser) (e : String) : queueOf (A ++ v :: B) e = queueOf (A ++ u :: B) e := by
  rw [queueOf_append, queueOf_append]
  by_cases same : u.eventType = e
  · subst same
    have first : queueOf (v :: B) u.eventType = v.request :: queueOf B u.eventType := by
      rw [← named, queueOf_cons_self]
    rw [first, queueOf_cons_self, request]
  · rw [queueOf_cons_of_ne same, queueOf_cons_of_ne (named ▸ same)]

theorem exists_of_mem_queueOf {users : List FenceUser} {r : LockRequest}
    (member : r ∈ queueOf users e) : ∃ u ∈ users, u.request = r := by
  obtain ⟨u, inside, same⟩ := List.mem_map.1 member
  exact ⟨u, (List.mem_filter.1 inside).1, same⟩

theorem coe_middle (A B : List FenceUser) (u : FenceUser) :
    ((A ++ u :: B : List FenceUser) : Multiset FenceUser) = u ::ₘ ((A ++ B : List FenceUser) :) :=
  Multiset.coe_eq_coe.2 List.perm_middle

end FenceUser

theorem AbstractFence.Step.exists_of_finished {a b : AbstractFence} (step : a.Step .finished b) :
    ∃ number, a.update = some number ∧ b.requests = (a.leave number).requests := by
  cases step with
  | finish updating => exact ⟨_, updating, rfl⟩

namespace LocalFences

open FenceUser

/-- The locks are sound for these users, and the requests of each are in the order of the users. -/
structure Queued (f : LocalFences) (users : List FenceUser) : Prop where
  sound : f.Sound (users : Multiset FenceUser)
  ordered : ∀ e, (f.view e).requests = queueOf users e

theorem queued_empty : empty.Queued [] := ⟨sound_empty, fun _ => rfl⟩

variable {f : LocalFences} {A B : List FenceUser} {u : FenceUser} {e : String} {t : Ticket}

theorem Queued.sound_middle (queued : f.Queued (A ++ u :: B)) :
    f.Sound (u ::ₘ ((A ++ B : List FenceUser) : Multiset FenceUser)) := by
  rw [← coe_middle]
  exact queued.sound

theorem Queued.number_ne (queued : f.Queued (A ++ u :: B)) :
    ∀ v ∈ A ++ B, v.number ≠ u.number := by
  have distinct := queued.sound_middle.accounts.distinct
  rw [Multiset.map_cons, Multiset.nodup_cons] at distinct
  intro v member same
  apply distinct.1
  rw [← same]
  exact Multiset.mem_map_of_mem number (Multiset.mem_coe.2 member)

theorem Queued.isGranted_eq (queued : f.Queued (A ++ u :: B)) :
    f.isGranted u.ticket = grantedBehind (modesOf A u.eventType) u.role.mode := by
  have member : u ∈ ((A ++ u :: B : List FenceUser) : Multiset FenceUser) := by simp
  have granted := queued.sound.granted_iff member
  rw [queued.ordered, queueOf_append, queueOf_cons_self] at granted
  have before : ∀ r ∈ queueOf A u.eventType, r.number ≠ u.number := by
    intro r inside
    obtain ⟨v, listed, same⟩ := exists_of_mem_queueOf inside
    rw [← same]
    exact queued.number_ne v (List.mem_append_left B listed)
  have after : ∀ r ∈ queueOf B u.eventType, r.number ≠ u.number := by
    intro r inside
    obtain ⟨v, listed, same⟩ := exists_of_mem_queueOf inside
    rw [← same]
    exact queued.number_ne v (List.mem_append_right A listed)
  rw [Bool.eq_iff_iff, granted, modesOf_eq, grantedBehind]
  constructor
  · rintro ⟨earlier, r, later, split, number, first⟩
    -- The numbers are distinct, so that the request stands where the user does.
    obtain ⟨same, here⟩ : queueOf A u.eventType = earlier ∧ r = u.request := by
      rcases List.append_eq_append_iff.1 split with ⟨more, whole, rest⟩ | ⟨more, whole, rest⟩
      · cases more with
        | nil => simp_all
        | cons x others =>
          obtain ⟨rfl, moved⟩ := List.cons.inj rest
          exact absurd number (after r (by simp [moved]))
      · cases more with
        | nil => simp_all
        | cons x others =>
          obtain ⟨rfl, -⟩ := List.cons.inj rest
          exact absurd number (before r (by simp [whole]))
    rw [same]
    rcases first with rfl | shared
    · rfl
    · have mode : u.role.mode = .shared := by
        have := shared r (by simp)
        rwa [here] at this
      have all : (earlier.map (·.mode)).all (· = .shared) = true := by
        rw [List.all_map, List.all_eq_true]
        intro x inside
        exact decide_eq_true (shared x (List.mem_append_left _ inside))
      simp only [mode, all, decide_true, Bool.and_true, Bool.or_true]
  · intro behind
    refine ⟨queueOf A u.eventType, u.request, queueOf B u.eventType, rfl, rfl, ?_⟩
    rw [Bool.or_eq_true, Bool.and_eq_true] at behind
    rcases behind with none | ⟨mode, shared⟩
    · left
      simpa using none
    · right
      intro x inside
      rcases List.mem_append.1 inside with earlier | here
      · rw [List.all_map, List.all_eq_true] at shared
        exact of_decide_eq_true (shared x earlier)
      · rw [List.mem_singleton.1 here]
        exact of_decide_eq_true mode

theorem Queued.ask {users : List FenceUser} (queued : f.Queued users) (e : String)
    (mode : LockMode) :
    (f.ask e mode).2.Queued (users ++ [⟨e, (f.ask e mode).1, .waiting mode⟩]) where
  sound := by
    rw [coe_middle, List.append_nil]
    exact queued.sound.ask e mode
  ordered := by
    intro e'
    have request : (f.ask e mode).1.request = f.lastRequest + 1 := ask_request f e mode
    rw [view, queued.sound.orderly.lockOf_ask, queueOf_append]
    by_cases same : e' = e
    · subst same
      rw [if_pos rfl, Lock.request_requests, queueOf_cons_self]
      change (f.view e').requests ++ _ = _
      rw [queued.ordered, nextRequest, FenceUser.request, FenceUser.number, request]
      rfl
    · rw [if_neg same, queueOf_cons_of_ne (Ne.symm same)]
      change (f.view e').requests = _
      rw [queued.ordered]
      simp [queueOf]

theorem Queued.queueOf_remove (queued : f.Queued (A ++ u :: B)) :
    (queueOf (A ++ u :: B) u.eventType).filter (·.number ≠ u.number) =
      queueOf (A ++ B) u.eventType := by
  have others : ∀ r ∈ queueOf (A ++ B) u.eventType, decide (r.number ≠ u.number) = true := by
    intro r inside
    obtain ⟨v, listed, same⟩ := exists_of_mem_queueOf inside
    rw [← same]
    exact decide_eq_true (queued.number_ne v listed)
  have here : decide (u.request.number ≠ u.number) = false :=
    decide_eq_false fun apart => apart rfl
  rw [queueOf_append] at others ⊢
  rw [queueOf_append, queueOf_cons_self, List.filter_append,
    List.filter_cons_of_neg (by simp [here]), ← List.filter_append, List.filter_eq_self.2 others]

theorem queueOf_middle_of_ne (apart : u.eventType ≠ e) (A B : List FenceUser) :
    queueOf (A ++ u :: B) e = queueOf (A ++ B) e := by
  rw [queueOf_append, queueOf_append, queueOf_cons_of_ne apart]

theorem Queued.giveUp (queued : f.Queued (A ++ u :: B)) (role : u.role ≠ .updating) :
    (f.giveUp u.ticket).Queued (A ++ B) where
  sound := queued.sound_middle.giveUp role
  ordered := by
    intro e
    have registered := queued.sound_middle.accounts.ticketed u (Multiset.mem_cons_self u _)
    rw [queued.sound.orderly.view_giveUp registered]
    by_cases same : e = u.eventType
    · rw [if_pos same, same, AbstractFence.leave, queued.ordered]
      exact queued.queueOf_remove
    · rw [if_neg same, queued.ordered, queueOf_middle_of_ne (Ne.symm same)]

theorem Queued.prune {users : List FenceUser} (queued : f.Queued users) (e : String) :
    (f.prune e).Queued users where
  sound := queued.sound.prune e
  ordered := by
    intro e'
    rw [queued.sound.orderly.view_prune, queued.ordered]

theorem Queued.permit (queued : f.Queued (A ++ ⟨e, t, .waiting .shared⟩ :: B))
    (granted : f.isGranted t = true) : f.Queued (A ++ ⟨e, t, .publishing⟩ :: B) where
  sound := by
    rw [coe_middle]
    exact queued.sound_middle.permit granted
  ordered := by
    intro e'
    have alike := queueOf_replace (u := ⟨e, t, .waiting .shared⟩) (v := ⟨e, t, .publishing⟩) rfl rfl
      A B e'
    rw [queued.ordered, alike]

theorem Queued.hold (queued : f.Queued (A ++ ⟨e, t, .waiting .exclusive⟩ :: B))
    (granted : f.isGranted t = true) : (f.hold e t).Queued (A ++ ⟨e, t, .updating⟩ :: B) where
  sound := by
    rw [coe_middle]
    exact queued.sound_middle.hold granted
  ordered := by
    intro e'
    have same : ((f.hold e t).view e').requests = (f.view e').requests := by
      rw [queued.sound_middle.hold_eq granted]
      rfl
    have alike :=
      queueOf_replace (u := ⟨e, t, .waiting .exclusive⟩) (v := ⟨e, t, .updating⟩) rfl rfl
      A B e'
    rw [same, queued.ordered, alike]

theorem Queued.finish (queued : f.Queued (A ++ ⟨e, t, .updating⟩ :: B)) :
    (LocalFences.finish e f).2.Queued (A ++ B) where
  sound := queued.sound_middle.finish
  ordered := by
    intro e'
    have event := queued.sound_middle.finish_event
    by_cases same : e' = e
    · subst same
      have updating := queued.sound_middle.updates.2 (Multiset.mem_cons_self _ _)
      have held : (f.view e').update = some t.request := by rw [view, updating, Option.map_some]
      obtain ⟨number, same, left⟩ := event.here.exists_of_finished
      obtain rfl : number = t.request := by
        rw [held] at same
        exact (Option.some.inj same).symm
      rw [left, AbstractFence.leave, queued.ordered]
      exact queued.queueOf_remove
    · rw [event.elsewhere e' same, queued.ordered, queueOf_middle_of_ne (Ne.symm same)]

end LocalFences

end Cutover
