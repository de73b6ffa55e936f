import Cutover.Proofs.Fence.Runs

set_option autoImplicit false

namespace Cutover

def FencePlace.plain {τ : Type} : FencePlace τ → FencePlace Unit
  | .waiting mode limit alarm _ => .waiting mode limit alarm ()
  | .publishing time _ => .publishing time ()
  | .updating time _ => .updating time ()
  | .closed answer => .closed answer

namespace FenceSeat

variable {τ : Type} {e : String}

def plain (s : FenceSeat τ) : FenceSeat Unit := ⟨s.eventType, s.name, s.place.plain⟩

/-- The calls of one event type, without their tickets. -/
def lane (e : String) (seats : List (FenceSeat τ)) : List (FenceSeat Unit) :=
  (seats.filter (·.eventType = e)).map plain

theorem lane_append (e : String) (A B : List (FenceSeat τ)) :
    lane e (A ++ B) = lane e A ++ lane e B := by
  rw [lane, List.filter_append, List.map_append, lane, lane]

theorem lane_cons_self {s : FenceSeat τ} (named : s.eventType = e) (rest : List (FenceSeat τ)) :
    lane e (s :: rest) = s.plain :: lane e rest := by
  rw [lane, List.filter_cons_of_pos (by simpa using named), List.map_cons, lane]

theorem lane_cons_of_ne {s : FenceSeat τ} (other : s.eventType ≠ e) (rest : List (FenceSeat τ)) :
    lane e (s :: rest) = lane e rest := by
  rw [lane, List.filter_cons_of_neg (by simpa using other), lane]

theorem mode?_plain (place : FencePlace τ) : place.plain.mode? = place.mode? := by
  cases place <;> rfl

theorem modes_cons (s : FenceSeat τ) (rest : List (FenceSeat τ)) (e : String) :
    modes (s :: rest) e =
      if s.eventType = e then s.place.mode?.toList ++ modes rest e else modes rest e := by
  unfold modes
  rw [List.filter_cons]
  split
  · next named =>
    rw [if_pos (of_decide_eq_true named), List.filterMap_cons]
    cases s.place.mode? <;> rfl
  · next other => rw [if_neg (by simpa using other)]

theorem modes_lane (e : String) (seats : List (FenceSeat τ)) :
    modes (lane e seats) e = modes seats e := by
  induction seats with
  | nil => rfl
  | cons s rest ih =>
    rw [modes_cons]
    by_cases named : s.eventType = e
    · have plain : s.plain.eventType = e := named
      rw [lane_cons_self named, modes_cons, if_pos named, if_pos plain, ih]
      exact congrArg (fun mode : Option LockMode => mode.toList ++ modes rest e)
        (mode?_plain s.place)
    · rw [lane_cons_of_ne named, if_neg named, ih]

theorem place_poll_plain (place : FencePlace τ) (e : String) (now : Nat) (earlier : List LockMode) :
    (place.poll e now earlier).plain = place.plain.poll e now earlier := by
  cases place with
  | waiting mode limit alarm t =>
    by_cases granted : grantedBehind earlier mode = true
    · cases mode <;> simp only [FencePlace.poll, FencePlace.plain, if_pos granted]
    · by_cases due : alarm ≤ now
      · simp only [FencePlace.poll, FencePlace.plain, if_neg granted, if_pos due]
      · simp only [FencePlace.poll, FencePlace.plain, if_neg granted, if_neg due]
  | _ => rfl

theorem poll_plain {s : FenceSeat τ} (named : s.eventType = e) (now : Nat)
    (earlier : List (FenceSeat τ)) :
    (s.poll now earlier).plain = s.plain.poll now (lane e earlier) := by
  subst named
  rw [plain, plain, poll, poll, place_poll_plain]
  simp only [modes_lane]

theorem lane_pass (e : String) (now : Nat) (earlier seats : List (FenceSeat τ)) :
    lane e (pass (poll now) earlier seats) = pass (poll now) (lane e earlier) (lane e seats) := by
  induction seats generalizing earlier with
  | nil => rfl
  | cons s rest ih =>
    rw [pass]
    by_cases named : s.eventType = e
    · have polled : (s.poll now earlier).eventType = e := named
      have single : lane e [s.poll now earlier] = [(s.poll now earlier).plain] :=
        lane_cons_self polled []
      rw [lane_cons_self polled, lane_cons_self named, ih, pass, lane_append, single,
        poll_plain named]
    · have polled : (s.poll now earlier).eventType ≠ e := named
      have nothing : lane e [s.poll now earlier] = [] := lane_cons_of_ne polled []
      rw [lane_cons_of_ne polled, lane_cons_of_ne named, ih, lane_append, nothing, List.append_nil]

theorem place_poll_poll (place : FencePlace τ) (e : String) (now : Nat) (earlier : List LockMode) :
    (place.poll e now earlier).poll e now earlier = place.poll e now earlier := by
  cases place with
  | waiting mode limit alarm t =>
    by_cases granted : grantedBehind earlier mode = true
    · cases mode <;> simp only [FencePlace.poll, if_pos granted]
    · by_cases due : alarm ≤ now
      · simp only [FencePlace.poll, if_neg granted, if_pos due]
      · simp only [FencePlace.poll, if_neg granted, if_neg due]
  | _ => rfl

theorem pass_pass (now : Nat) (earlier seats : List (FenceSeat τ)) :
    pass (poll now) earlier (pass (poll now) earlier seats) = pass (poll now) earlier seats := by
  induction seats generalizing earlier with
  | nil => rfl
  | cons s rest ih =>
    have again : (s.poll now earlier).poll now earlier = s.poll now earlier := by
      simp only [poll, place_poll_poll]
    rw [pass, pass, again, ih]

theorem plain_leave (s : FenceSeat τ) (e : String) (name : Nat) :
    (s.leave e name).plain = s.plain.leave e name := by
  unfold leave plain
  split
  · cases s.place <;> rfl
  · rfl

theorem plain_finish (s : FenceSeat τ) (e : String) : (s.finish e).plain = s.plain.finish e := by
  unfold finish plain
  split
  · cases s.place <;> rfl
  · rfl

theorem lane_map {change : FenceSeat τ → FenceSeat τ} {change' : FenceSeat Unit → FenceSeat Unit}
    (kept : ∀ s, (change s).eventType = s.eventType)
    (plain : ∀ s, (change s).plain = change' s.plain)
    (e : String) (seats : List (FenceSeat τ)) :
    lane e (seats.map change) = (lane e seats).map change' := by
  induction seats with
  | nil => rfl
  | cons s rest ih =>
    rw [List.map_cons]
    by_cases named : s.eventType = e
    · rw [lane_cons_self ((kept s).trans named), lane_cons_self named, ih, plain, List.map_cons]
    · have other : (change s).eventType ≠ e := fun same => named ((kept s).symm.trans same)
      rw [lane_cons_of_ne other, lane_cons_of_ne named, ih]

theorem lane_map_of_same {change : FenceSeat τ → FenceSeat τ}
    (kept : ∀ s, (change s).eventType = s.eventType)
    (same : ∀ s, s.eventType = e → change s = s) (seats : List (FenceSeat τ)) :
    lane e (seats.map change) = lane e seats := by
  induction seats with
  | nil => rfl
  | cons s rest ih =>
    rw [List.map_cons]
    by_cases named : s.eventType = e
    · rw [same s named, lane_cons_self named, lane_cons_self named, ih]
    · have other : (change s).eventType ≠ e := fun again => named ((kept s).symm.trans again)
      rw [lane_cons_of_ne other, lane_cons_of_ne named, ih]

theorem leave_eventType (s : FenceSeat τ) (e : String) (name : Nat) :
    (s.leave e name).eventType = s.eventType := by
  unfold leave
  split <;> rfl

theorem finish_eventType (s : FenceSeat τ) (e : String) :
    (s.finish e).eventType = s.eventType := by
  unfold finish
  split <;> rfl

theorem isUpdating_plain (s : FenceSeat τ) (e : String) :
    s.plain.isUpdating e = s.isUpdating e := by
  obtain ⟨e', name, place⟩ := s
  cases place <;> rfl

theorem any_isUpdating_lane (e : String) (seats : List (FenceSeat τ)) :
    (lane e seats).any (isUpdating e) = seats.any (isUpdating e) := by
  induction seats with
  | nil => rfl
  | cons s rest ih =>
    by_cases named : s.eventType = e
    · rw [lane_cons_self named, List.any_cons, List.any_cons, ih, isUpdating_plain]
    · have idle : s.isUpdating e = false := by simp [isUpdating, named]
      rw [lane_cons_of_ne named, List.any_cons, ih, idle, Bool.false_or]

theorem lane_asked (name now : Nat) (mode : LockMode) (limit : Duration) (t : τ)
    (seats : List (FenceSeat τ)) :
    lane e (seats ++ [(asked e name now mode limit t).poll now seats]) =
      lane e seats ++ [(asked e name now mode limit ()).poll now (lane e seats)] := by
  have single : lane e [(asked e name now mode limit t).poll now seats] =
      [((asked e name now mode limit t).poll now seats).plain] := lane_cons_self rfl []
  rw [lane_append, single, poll_plain rfl]
  rfl

theorem lane_act {m : FenceMove} (here : m.concerns e = true) (now : Nat) (t : τ)
    (seats : List (FenceSeat τ)) : lane e (act now t seats m) = act now () (lane e seats) m := by
  cases m with
  | tick => rfl
  | leave e' name =>
    obtain rfl : e' = e := of_decide_eq_true here
    exact lane_map (fun s => leave_eventType s e' name) (fun s => plain_leave s e' name) e' seats
  | call e' name demand =>
    obtain rfl : e' = e := of_decide_eq_true here
    cases demand with
    | permit limit => exact lane_asked name now .shared limit t seats
    | start limit => exact lane_asked name now .exclusive limit t seats
    | finish =>
      have finished :=
        lane_map (fun s => finish_eventType s e') (fun s => plain_finish s e') e' seats
      simp only [act]
      rw [lane_append, finished, any_isUpdating_lane]
      exact congrArg _ (lane_cons_self rfl [])

theorem lane_act_of_other {m : FenceMove} (elsewhere : m.concerns e = false) (now : Nat) (t : τ)
    (seats : List (FenceSeat τ)) : lane e (act now t seats m) = lane e seats := by
  cases m with
  | tick => rfl
  | leave e' name =>
    have apart : e' ≠ e := of_decide_eq_false elsewhere
    apply lane_map_of_same fun s => leave_eventType s e' name
    intro s named
    have other : ¬(s.eventType = e' ∧ s.name = name) := fun both => apart (both.1.symm.trans named)
    exact if_neg other
  | call e' name demand =>
    have apart : e' ≠ e := of_decide_eq_false elsewhere
    cases demand with
    | permit limit =>
      rw [FenceSeat.act, lane_append, lane_cons_of_ne apart]
      simp [lane]
    | start limit =>
      rw [FenceSeat.act, lane_append, lane_cons_of_ne apart]
      simp [lane]
    | finish =>
      have same : lane e (seats.map (finish e')) = lane e seats := by
        apply lane_map_of_same fun s => finish_eventType s e'
        intro s named
        exact if_neg fun again => apart (again.symm.trans named)
      simp only [act]
      rw [lane_append, same, lane_cons_of_ne apart]
      exact List.append_nil _

/-- The calls of an event type after one move on it. -/
def next (state : Nat × List (FenceSeat Unit)) (m : FenceMove) : Nat × List (FenceSeat Unit) :=
  (clock state.1 m, move state.1 () state.2 m)

theorem lane_move {m : FenceMove} (here : m.concerns e = true) (now : Nat) (t : τ)
    (seats : List (FenceSeat τ)) :
    lane e (move now t seats m) = move now () (lane e seats) m := by
  rw [move, lane_pass, lane_act here, move]
  rfl

/-- After a move on another event type there is nothing to do for calls that were looked at. -/
theorem lane_move_of_other {m : FenceMove} (elsewhere : m.concerns e = false) {now : Nat}
    {seats : List (FenceSeat τ)} (settled : pass (poll now) [] (lane e seats) = lane e seats)
    (t : τ) : clock now m = now ∧ lane e (move now t seats m) = lane e seats := by
  have still : clock now m = now := by
    cases m with
    | tick => cases elsewhere
    | _ => rfl
  constructor
  · exact still
  · rw [move, lane_pass, lane_act_of_other elsewhere, still]
    exact settled

end FenceSeat

namespace FenceRun

open FenceSeat

theorem Seated.lane_run {s : FenceRun} {seats : List (FenceSeat Ticket)} (seated : s.Seated seats)
    {e : String} (settled : pass (poll s.now) [] (lane e seats) = lane e seats)
    (moves : List FenceMove) :
    ∃ seats', (moves.foldl FenceRun.move s).Seated seats' ∧
      ((moves.foldl FenceRun.move s).now, lane e seats') =
        (moves.filter (·.concerns e)).foldl next (s.now, lane e seats) := by
  -- The calls of the event type have been looked at after each move.
  induction moves generalizing s seats with
  | nil => exact ⟨seats, seated, rfl⟩
  | cons m rest ih =>
    obtain ⟨t, moved⟩ := seated.move m
    have settled' : pass (poll (s.move m).now) [] (lane e (FenceSeat.move s.now t seats m)) =
        lane e (FenceSeat.move s.now t seats m) := by
      have looked := pass_pass (clock s.now m) [] (lane e (FenceSeat.act s.now t seats m))
      rw [move_now, FenceSeat.move, lane_pass]
      exact looked
    obtain ⟨seats', ends, same⟩ := ih moved settled'
    refine ⟨seats', ends, ?_⟩
    rw [List.foldl_cons, same, move_now]
    cases here : m.concerns e with
    | true => rw [List.filter_cons_of_pos here, List.foldl_cons, next, lane_move here]
    | false =>
      obtain ⟨still, alone⟩ := lane_move_of_other here settled t
      rw [List.filter_cons_of_neg (by simp [here]), still, alone]

theorem outcome_plain {τ : Type} (place : FencePlace τ) : place.plain.outcome = place.outcome := by
  cases place with
  | closed answer => cases answer <;> rfl
  | _ => rfl

theorem Seated.outcomes_eq_lane {s : FenceRun} {seats : List (FenceSeat Ticket)}
    (seated : s.Seated seats) (e : String) :
    s.outcomes e = (lane e seats).map fun seat => (seat.name, seat.place.outcome) := by
  rw [seated.outcomes_eq, lane, List.map_map]
  apply List.map_congr_left
  intro seat _
  exact congrArg (Prod.mk seat.name) (outcome_plain seat.place).symm

/-- Two runs at a moment at which they show the same of an event type: the time, whether it is
fenced, and what has become of each call. -/
structure Alike (e : String) (s s' : FenceRun) : Prop where
  time : s.now = s'.now
  fenced : s.fences.isFenced e = s'.fences.isFenced e
  outcomes : s.outcomes e = s'.outcomes e

theorem alike_run {e : String} {moves moves' : List FenceMove}
    (same : moves.filter (·.concerns e) = moves'.filter (·.concerns e)) :
    (run moves).Alike e (run moves') := by
  obtain ⟨seats, seated, told⟩ := seated_start.lane_run (e := e) rfl moves
  obtain ⟨seats', seated', told'⟩ := seated_start.lane_run (e := e) rfl moves'
  have both := told.trans ((congrArg _ same).trans told'.symm)
  obtain ⟨time, lanes⟩ := Prod.mk.inj both
  constructor
  · exact time
  · have fenced := seated.isFenced_eq e
    have fenced' := seated'.isFenced_eq e
    rw [← any_isUpdating_lane] at fenced fenced'
    rw [run, run, fenced, fenced', lanes]
  · have outcomes := seated.outcomes_eq_lane e
    have outcomes' := seated'.outcomes_eq_lane e
    rw [run, run, outcomes, outcomes', lanes]

end FenceRun

/-- A moment of one run has its counterpart in another with the same moves on the event type. -/
theorem exists_take_filter {α : Type} {keep : α → Bool} {moves moves' : List α}
    (same : moves.filter keep = moves'.filter keep) (n : Nat) :
    ∃ n', (moves.take n).filter keep = (moves'.take n').filter keep := by
  have parts : moves'.filter keep = (moves.take n).filter keep ++ (moves.drop n).filter keep := by
    rw [← same, ← List.filter_append, List.take_append_drop]
  obtain ⟨front, back, split, first, -⟩ := List.filter_eq_append_iff.1 parts
  refine ⟨front.length, ?_⟩
  rw [split, List.take_left, first]

/-- Fences of different event types are independent: two runs whose moves on an event type are the
same, at the same times, show the same of it, and so at each moment, whatever happens to others. -/
theorem fences_independent {e : String} {moves moves' : List FenceMove}
    (same : moves.filter (·.concerns e) = moves'.filter (·.concerns e)) :
    (FenceRun.run moves).Alike e (FenceRun.run moves') ∧
      ∀ n, ∃ n', (moves.take n).filter (·.concerns e) = (moves'.take n').filter (·.concerns e) ∧
        (FenceRun.run (moves.take n)).Alike e (FenceRun.run (moves'.take n')) := by
  constructor
  · exact FenceRun.alike_run same
  · intro n
    obtain ⟨n', moment⟩ := exists_take_filter same n
    exact ⟨n', moment, FenceRun.alike_run moment⟩

/-- An update that times out behind a permit, one that is granted, and one end too many. -/
def FenceRun.ordersOnly : List FenceMove :=
  [.call "orders" 1 (.permit (.ofSeconds 1)), .call "orders" 2 (.start (.ofMillis 1)), .tick,
    .leave "orders" 1, .call "orders" 3 (.start (.ofSeconds 1)), .tick,
    .call "orders" 4 (.permit (.ofSeconds 1)), .call "orders" 5 .finish, .call "orders" 6 .finish]

/-- The same while payments are updated and another permit is refused. -/
def FenceRun.ordersAmongOthers : List FenceMove :=
  [.call "payments" 1 (.start (.ofSeconds 1)), .call "orders" 1 (.permit (.ofSeconds 1)),
    .call "orders" 2 (.start (.ofMillis 1)), .call "payments" 2 (.permit (.ofMillis 1)), .tick,
    .leave "orders" 1, .call "payments" 3 .finish, .call "orders" 3 (.start (.ofSeconds 1)),
    .call "payments" 4 (.start (.ofSeconds 1)), .tick, .leave "payments" 4,
    .call "orders" 4 (.permit (.ofSeconds 1)), .call "orders" 5 .finish, .call "orders" 6 .finish]

theorem fences_independent_among_others :
    FenceRun.ordersOnly.filter (·.concerns "orders") =
        FenceRun.ordersAmongOthers.filter (·.concerns "orders") ∧
      (FenceRun.run FenceRun.ordersOnly).Alike "orders" (FenceRun.run FenceRun.ordersAmongOthers) ∧
      (FenceRun.run FenceRun.ordersOnly).outcomes "orders" =
        [(1, .ended (.ok ()) 0), (2, .ended (.error (.timeout "orders" (.ofMillis 1))) 1),
          (3, .ended (.ok ()) 1), (4, .ended (.ok ()) 2), (5, .ended (.ok ()) 2),
          (6, .ended (.error (.notHeld "orders")) 2)] :=
  ⟨by decide, (fences_independent (by decide)).1, by decide +kernel⟩

end Cutover
