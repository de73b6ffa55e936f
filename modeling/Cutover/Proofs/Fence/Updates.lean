import Cutover.Process.Alone
import Cutover.Proofs.Fence.Abstract

set_option autoImplicit false

namespace Cutover

namespace AbstractFence

variable {a b : AbstractFence} {r : LockRequest} {number : Nat}

theorem Step.asked_eq (step : a.Step (.asked r) b) :
    (∀ x ∈ a.requests, x.number ≠ r.number) ∧ b = ⟨a.requests ++ [r], a.update⟩ := by
  cases step with
  | ask fresh => exact ⟨fresh, rfl⟩

theorem Step.started_eq (step : a.Step (.started number) b) :
    a.update = none ∧ b = ⟨a.requests, some number⟩ := by
  cases step with
  | start _ free => exact ⟨free, rfl⟩

theorem Step.finished_eq (step : a.Step .finished b) (updating : a.update = some number) :
    b = ⟨(a.leave number).requests, none⟩ := by
  cases step with
  | finish updating' => rw [Option.some.inj (updating.symm.trans updating')]

end AbstractFence

/-- The last request of all is granted the lock exclusively just if it is the only one. -/
theorem Lock.granted_last_iff {requests : List LockRequest} {r : LockRequest}
    (exclusive : r.mode = .exclusive) (fresh : ∀ x ∈ requests, x.number ≠ r.number) :
    Granted (requests ++ [r]) r.number ↔ requests = [] := by
  constructor
  · rintro ⟨earlier, r', later, whole, same, oldest⟩
    rcases List.eq_nil_or_concat later with rfl | ⟨rest, last, rfl⟩
    · obtain ⟨rfl, final⟩ := List.append_inj' whole rfl
      obtain rfl := List.singleton_inj.1 final
      refine oldest.resolve_right fun shared => ?_
      have mode := shared r (by simp)
      exact nomatch exclusive.symm.trans mode
    · have earlier' : requests = earlier ++ r' :: rest := by
        have whole' : requests ++ [r] = (earlier ++ r' :: rest) ++ [last] := by simp [whole]
        exact (List.append_inj' whole' rfl).1
      exact absurd same (fresh r' (by simp [earlier']))
  · rintro rfl
    exact ⟨[], r, [], rfl, rfl, .inl rfl⟩

namespace LocalFences

variable {f f₁ : LocalFences} {users : Multiset FenceUser} {e : String} {limit : Duration}

/-- The same fences, as far as anybody who asks for them can tell, with further announcements. -/
structure Logged (f f' : LocalFences) : Prop where
  views : ∀ e, f'.view e = f.view e
  announced : f.announced <+: f'.announced

theorem Logged.refl (f : LocalFences) : f.Logged f := ⟨fun _ => rfl, List.prefix_refl _⟩

theorem Logged.trans {f' f'' : LocalFences} (first : f.Logged f') (second : f'.Logged f'') :
    f.Logged f'' :=
  ⟨fun e => (second.views e).trans (first.views e), first.announced.trans second.announced⟩

theorem hold_announced (f : LocalFences) (e : String) (t : Ticket) :
    (f.hold e t).announced = f.announced := by
  rw [LocalFences.hold]
  split <;> rfl

theorem finish_announced {t : Ticket} (held : f.held.get? e = some t) :
    (LocalFences.finish e f).2.announced = f.announced ++ [e] := by
  rw [LocalFences.finish, held]
  dsimp only
  rw [prune_announced]
  rfl

/-- A request that is made alone ends at once, whether or not it is granted. -/
theorem runAlone_start (f : LocalFences) (e : String) (limit : Duration) :
    (LocalFences.sync.start e limit).runAlone f =
      startEnded e limit (f.ask e .exclusive).1 (f.ask e .exclusive).2 := rfl

theorem Sound.view_ask (sound : f.Sound users) (e : String) :
    (∀ x ∈ (f.view e).requests, x.number ≠ (f.ask e .exclusive).1.request) ∧
      (f.ask e .exclusive).2.view e =
        ⟨(f.view e).requests ++ [⟨(f.ask e .exclusive).1.request, .exclusive⟩],
          (f.view e).update⟩ := by
  rw [ask_request]
  exact (sound.ask_event e .exclusive).here.asked_eq

theorem Sound.isGranted_ask (sound : f.Sound users) (e : String) :
    (f.ask e .exclusive).2.isGranted (f.ask e .exclusive).1 = true ↔
      (f.view e).requests = [] := by
  obtain ⟨fresh, asked⟩ := sound.view_ask e
  have granted := (sound.ask e .exclusive).granted_iff (Multiset.mem_cons_self _ users)
  refine granted.trans ?_
  dsimp only [FenceUser.number]
  rw [asked]
  exact Lock.granted_last_iff rfl fresh

theorem Sound.starts_iff (sound : f.Sound users) (e : String) (limit : Duration) :
    ((LocalFences.sync.start e limit).runAlone f).1 = .ok () ↔ (f.view e).requests = [] := by
  rw [runAlone_start, ← sound.isGranted_ask e]
  cases granted : (f.ask e .exclusive).2.isGranted (f.ask e .exclusive).1 with
  | true => simp [startEnded_of_granted granted]
  | false => simp [startEnded_of_waiting granted]

/-- An update that has started and ended leaves the fences as they were, and is announced. -/
theorem Sound.update (sound : f.Sound users)
    (started : (LocalFences.sync.start e limit).runAlone f = (.ok (), f₁)) :
    (LocalFences.finish e f₁).2.Sound users ∧ f.Logged (LocalFences.finish e f₁).2 := by
  have clear := (sound.starts_iff e limit).1 (congrArg Prod.fst started)
  have granted := (sound.isGranted_ask e).2 clear
  have asked := sound.ask e .exclusive
  rw [runAlone_start, startEnded_of_granted granted] at started
  obtain rfl := (Prod.mk.inj started).2
  have held := asked.hold granted
  refine ⟨held.finish, ?_, ?_⟩
  · have asks := sound.ask_event e .exclusive
    have starts := asked.start_event granted
    have finishes := held.finish_event
    intro e'
    by_cases same : e' = e
    · subst same
      obtain ⟨free, begun⟩ := starts.here.started_eq
      obtain ⟨-, view⟩ := sound.view_ask e'
      rw [finishes.here.finished_eq (by rw [begun]), begun, view]
      rw [view] at free
      ext1
      · simp [AbstractFence.leave, clear]
      · exact free.symm
    · exact (finishes.elsewhere e' same).trans
        ((starts.elsewhere e' same).trans (asks.elsewhere e' same))
  · rw [finish_announced (held.updates.2 (Multiset.mem_cons_self _ users)), hold_announced,
      ask_announced]
    exact List.prefix_append _ _

end LocalFences

end Cutover
