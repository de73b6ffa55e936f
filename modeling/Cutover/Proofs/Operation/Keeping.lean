import Cutover.Proofs.Fence.Guard
import Cutover.Proofs.Fence.Steps
import Cutover.Service.Operation

set_option autoImplicit false

namespace Cutover.Operation

variable {κ α β : Type} {P : Protocol World κ} {leave : κ → Prop} {post : α → κ → Prop} {k : κ}

/-- An operation keeps to a protocol. It succeeds with a result and a stake that satisfy `post`, and
wherever it fails or can be dropped its stake satisfies `leave`. -/
def FollowsBy (P : Protocol World κ) (op : Operation α) (leave : κ → Prop) (post : α → κ → Prop)
    (k : κ) : Prop :=
  op.run.Follows P leave
    (fun result k => match result with
      | .ok a => post a k
      | .error _ => leave k) k

theorem FollowsBy.leaves {op : Operation α} (follows : op.FollowsBy P leave (fun _ => leave) k) :
    op.run.Follows P leave (fun _ => leave) k := by
  refine Process.Follows.mono (fun _ left => left) ?_ follows
  rintro (_ | _) k left <;> exact left

theorem followsBy_pure {a : α} (held : post a k) :
    (pure a : Operation α).FollowsBy P leave post k := held

theorem followsBy_throw {e : TimelineError} (held : leave k) :
    (throw e : Operation α).FollowsBy P leave post k := held

theorem followsBy_bind {op : Operation α} {f : α → Operation β} {post : β → κ → Prop}
    (follows : op.FollowsBy P leave (fun a k => (f a).FollowsBy P leave post k) k) :
    (op >>= f).FollowsBy P leave post k := by
  rw [FollowsBy, ExceptT.run_bind]
  apply Process.Follows.bind
  refine Process.Follows.mono (fun _ left => left) ?_ follows
  rintro (e | a) k held
  · exact held
  · exact held

theorem followsBy_check {refused : Prop} [Decidable refused] {e : TimelineError}
    {rest : Unit → Operation β} {post : β → κ → Prop} (left : leave k)
    (passed : ¬ refused → (rest ()).FollowsBy P leave post k) :
    (if refused then throw e >>= rest else rest ()).FollowsBy P leave post k := by
  split
  · exact followsBy_bind (followsBy_throw left)
  · next unrefused => exact passed unrefused

theorem followsBy_look {view : World → α} (left : leave k)
    (seen : ∀ w, ∃ k', P.moves k w (.answer (.ok (view w) : Except TimelineError α)) k' w ∧
      post (view w) k') : (look view).FollowsBy P leave post k :=
  ⟨left, seen⟩

theorem followsBy_call {action : World → Except TimelineError (α × World)} (left : leave k)
    (rests : ∀ w sight, P.moves k w sight k w)
    (done : ∀ w a w', action w = .ok (a, w') →
      ∃ k', P.moves k w (.answer (.ok a : Except TimelineError α)) k' w' ∧ post a k') :
    (call action).FollowsBy P leave post k := by
  refine ⟨left, fun w => ?_⟩
  cases result : action w with
  | error e =>
    simp only [result]
    exact ⟨k, rests w _, left⟩
  | ok both =>
    obtain ⟨a, w'⟩ := both
    simp only [result]
    exact done w a w' result

theorem followsBy_writeStore {write : Store → Except StoreError Store} {post : Unit → κ → Prop}
    (left : leave k) (rests : ∀ w sight, P.moves k w sight k w)
    (written : ∀ (w : World) (s : Store) (sight : Sight), write w.store = .ok s →
      ∃ k', P.moves k w sight k' (w.withStore s) ∧ post () k') :
    (writeStore write).FollowsBy P leave post k := by
  refine followsBy_call left rests fun w a w' result => ?_
  split at result
  · next s done =>
    obtain ⟨_, rfl⟩ := Prod.mk.inj (Except.ok.inj result)
    exact written w s _ done
  · exact nomatch result

/-- A fenced operation, with local fences: it asks, is refused or withdraws, or holds the fence
while its body runs. Whatever the body ends with and wherever it is dropped, the release takes
over. -/
theorem followsBy_fenced {e : String} {limit : Duration} {body : Operation α}
    (asked held : Ticket → κ) (gone : κ) (fencing : Ticket → κ → Prop) (left : leave k)
    (leaves : leave gone)
    (ask : ∀ w sight, P.moves k w sight (asked (w.fences.ask e .exclusive).1)
      (w.withFences (w.fences.ask e .exclusive).2))
    (withdraw : ∀ t w sight, P.moves (asked t) w sight gone (w.withFences (w.fences.giveUp t)))
    (refuse : ∀ t w sight,
      P.moves (asked t) w sight gone (w.withFences ((w.fences.giveUp t).prune e)))
    (fence : ∀ t w sight, w.fences.isGranted t = true →
      P.moves (asked t) w sight (held t) (w.withFences (w.fences.hold e t)))
    (follows : ∀ t, body.FollowsBy P (fencing t) (fun _ => fencing t) (held t))
    (released : ∀ t k, fencing t k → World.localSync.Frees e P leave k) :
    (fenced World.localSync e limit body).FollowsBy P leave (fun _ => leave) k := by
  have starts : (World.localSync.start e limit).Follows P leave
      (fun answer k' => match answer with
        | .ok () => ∃ t, k' = held t
        | .error _ => leave k') k := by
    refine ⟨left, fun w => ⟨_, ask w _, fun w' => ⟨_, withdraw _ w' _, leaves⟩, fun w' => ?_⟩⟩
    change ∃ k', P.moves _ w' (.answer (LocalFences.startEnded e limit _ w'.fences).1) k'
      (w'.withFences (LocalFences.startEnded e limit _ w'.fences).2) ∧
        (Process.done (LocalFences.startEnded e limit _ w'.fences).1).Follows _ _ _ k'
    cases granted : w'.fences.isGranted (w.fences.ask e .exclusive).1 with
    | true =>
      rw [LocalFences.startEnded_of_granted granted]
      exact ⟨_, fence _ w' _ granted, _, rfl⟩
    | false =>
      rw [LocalFences.startEnded_of_waiting granted]
      exact ⟨_, refuse _ w' _, leaves⟩
  refine TimelineSync.follows_fenced starts (fun _ _ refused => refused) ?_
  rintro _ ⟨t, rfl⟩
  refine Process.Follows.mono (released t) (fun result k ended => ?_) (follows t)
  have stays : fencing t k := by
    cases result with
    | ok a => exact ended
    | error _ => exact ended
  refine (released t k stays).mono fun kept left => ⟨left, ?_⟩
  cases result with
  | ok a => exact left
  | error _ => exact left

end Cutover.Operation
