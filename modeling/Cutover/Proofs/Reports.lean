import Cutover.Proofs.Fence.Release

set_option autoImplicit false

namespace Cutover.Pool

variable {σ α β : Type}

/-- A process that gives a part of what it has to report. -/
def cut (f : α → β) (p : Process σ α) : Process σ β := p.bind fun report => .done (f report)

/-- The pool of the same calls when they give a part of their reports. -/
def given (f : α → β) (pool : Pool σ α) : Pool σ β :=
  { pool with calls := pool.calls.map (Option.map (cut f)) }

variable {f : α → β} {pool : Pool σ α} {i : Nat}

theorem given_set (pool : Pool σ α) (i : Nat) (call : Option (Process σ α)) :
    (pool.given f).calls.set i (call.map (cut f)) =
      (pool.calls.set i call).map (Option.map (cut f)) :=
  List.map_set.symm

theorem given_living {p : Process σ β} (living : (pool.given f).calls[i]? = some (some p)) :
    ∃ q, pool.calls[i]? = some (some q) ∧ p = cut f q := by
  rw [given, List.getElem?_map, Option.map_eq_some_iff] at living
  obtain ⟨call, found, same⟩ := living
  obtain ⟨q, rfl, rfl⟩ := Option.map_eq_some_iff.1 same
  exact ⟨q, found, rfl⟩

theorem move_given {admitted : Process σ α → Prop} {disturbance : σ → σ → Prop} {after : Pool σ β}
    (moved : Move (fun p => ∃ q, admitted q ∧ p = cut f q) disturbance (pool.given f) after) :
    ∃ pool', Move admitted disturbance pool pool' ∧ after = pool'.given f := by
  cases moved with
  | call allowed =>
    obtain ⟨q, allowed, rfl⟩ := allowed
    refine ⟨_, .call allowed, ?_⟩
    rw [given, given, List.map_append]
    rfl
  | step living taken =>
    obtain ⟨q, found, rfl⟩ := given_living living
    rcases Process.Step.of_bind taken with ⟨a, rfl, nothing⟩ | ⟨left, own, rfl⟩
    · exact nomatch nothing
    · refine ⟨_, .step found own, ?_⟩
      rw [show some (left.bind fun report => Process.done (f report)) = (some left).map (cut f)
        from rfl, given_set]
      rfl
  | drop living unfinished =>
    obtain ⟨q, found, rfl⟩ := given_living living
    have left : ∀ a, q ≠ .done a := by
      rintro a rfl
      exact unfinished (f a) rfl
    refine ⟨_, .drop found left, ?_⟩
    rw [show (none : Option (Process σ β)) = (none : Option (Process σ α)).map (cut f) from rfl,
      given_set, cut, Process.drop_bind left]
    rfl
  | clean living taken => exact ⟨_, .clean living taken, rfl⟩
  | disturb allowed => exact ⟨_, .disturb allowed, rfl⟩

theorem reaches_given {admitted : Process σ α → Prop} {disturbance : σ → σ → Prop} {s : σ}
    {after : Pool σ β}
    (reached : Reaches (fun p => ∃ q, admitted q ∧ p = cut f q) disturbance (.empty s) after) :
    ∃ pool, Reaches admitted disturbance (.empty s) pool ∧ after = pool.given f := by
  induction reached with
  | refl => exact ⟨.empty s, .refl, rfl⟩
  | tail _ moved ih =>
    obtain ⟨pool, before, rfl⟩ := ih
    obtain ⟨pool', own, rfl⟩ := move_given moved
    exact ⟨pool', before.tail own, rfl⟩

end Cutover.Pool
