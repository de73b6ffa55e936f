import Cutover.Fence.Sync
import Cutover.Proofs.Protocol

set_option autoImplicit false

namespace Cutover

variable {σ κ π ε α β : Type}

theorem Unwinding.run_calm_bind (p : Process σ α) (f : α → Unwinding σ π β) :
    (calm p >>= f).run = p.bind fun a => (f a).run := by
  change (p.bind _).bind _ = _
  rw [Process.bind_assoc]
  rfl

namespace TimelineSync

variable (sync : TimelineSync σ) (eventType : String) (limit : Duration)

/-- The release of a fence, and the wait for it. -/
def released (outcome : β) : Process σ β :=
  .spawn (sync.release eventType) fun handle => .join handle (.done outcome)

/-- The guard is disarmed while the release is waited for, so that it does not release again. -/
theorem release_new_bind (f : Unit → Process σ β) :
    ((FenceGuard.new eventType).release sync).bind f =
      .spawn (sync.release eventType) fun handle => .join handle (f ()) := rfl

/-- What follows the body of a fenced call. Its panic is caught, so that no other comes this far. -/
def afterBody : Except π (Except π (Except ε α)) → Process σ (Except π (Except ε α))
  | .ok outcome => sync.released eventType outcome
  | .error payload => .spawn (sync.release eventType) fun _ => .done (.error payload)

def afterStart (convert : FenceError → ε) (body : Unwinding σ π (Except ε α)) :
    Except FenceError Unit → Process σ (Except π (Except ε α))
  | .error e => .done (.ok (.error (convert e)))
  | .ok () =>
      .owning (sync.release eventType) body.catchUnwind.run (sync.afterBody eventType)

theorem run_withFence (convert : FenceError → ε) (body : Unwinding σ π (Except ε α)) :
    (sync.withFence eventType limit convert body).run =
      (sync.start eventType limit).bind (sync.afterStart eventType convert body) := by
  rw [withFence, Unwinding.run_calm_bind]
  congr 1
  funext started
  cases started with
  | error e => rfl
  | ok _ =>
    change Process.owning _ _ _ = Process.owning _ _ _
    congr 1
    funext outcome
    -- The guard is armed where the body is dropped, and disarmed from the release on.
    cases outcome with
    | error payload => rfl
    | ok outcome =>
      dsimp only
      rw [Unwinding.run_calm_bind, release_new_bind]
      cases outcome <;> rfl

theorem fenced_eq (convert : FenceError → ε) (body : Process σ (Except ε α)) :
    sync.fenced eventType limit convert body =
      (sync.start eventType limit).bind fun
        | .error e => .done (.error (convert e))
        | .ok () =>
            .owning (sync.release eventType) (body.bind fun result => .done (.ok (.ok result)))
              fun outcome =>
                sync.released eventType (Unwinding.calmly (Unwinding.calmly outcome)) := by
  rw [fenced, run_withFence, Process.bind_assoc]
  congr 1
  funext started
  cases started with
  | error e => rfl
  | ok _ =>
    have caught : (Unwinding.calm body : Unwinding σ Empty (Except ε α)).catchUnwind.run =
        body.bind fun result => .done (.ok (.ok result)) := Process.bind_assoc ..
    change Process.owning _ _ _ = _
    rw [caught]
    congr 1
    funext outcome
    rcases outcome with ⟨⟨⟩⟩ | ⟨⟨⟩⟩ | result
    rfl

variable {sync eventType limit} {P : Protocol σ κ} {leave rest : κ → Prop} {k : κ}

/-- The release of a fence can be left to a task of its own. -/
def Frees (sync : TimelineSync σ) (eventType : String) (P : Protocol σ κ) (rest : κ → Prop)
    (k : κ) : Prop :=
  ∃ owed kept, P.splits k owed kept ∧
    (sync.release eventType).Follows P (fun _ => True) (fun _ => P.settled) owed ∧ rest kept

theorem Frees.mono {rest' : κ → Prop} (better : ∀ k, rest k → rest' k)
    (frees : sync.Frees eventType P rest k) : sync.Frees eventType P rest' k := by
  obtain ⟨owed, kept, split, clean, stays⟩ := frees
  exact ⟨owed, kept, split, clean, better kept stays⟩

/-- A fenced call follows a protocol if its start does, and its body does from there and leaves the
release, wherever it ends or is dropped. -/
theorem follows_fenced {convert : FenceError → ε} {body : Process σ (Except ε α)}
    {started : Except FenceError Unit → κ → Prop} {post : Except ε α → κ → Prop}
    (starts : (sync.start eventType limit).Follows P leave started k)
    (refused : ∀ e k', started (.error e) k' → post (.error (convert e)) k')
    (follows : ∀ k', started (.ok ()) k' → body.Follows P (sync.Frees eventType P leave)
      (fun result => sync.Frees eventType P fun kept => leave kept ∧ post result kept) k') :
    (sync.fenced eventType limit convert body).Follows P leave post k := by
  rw [fenced_eq]
  apply Process.Follows.bind
  refine starts.mono (fun _ left => left) fun answer k' began => ?_
  cases answer with
  | error e => exact refused e k' began
  | ok _ =>
    refine Process.Follows.bind ((follows k' began).mono (fun _ left => left) ?_)
    rintro result k'' ⟨owed, kept, split, clean, left, ended⟩
    exact ⟨⟨owed, kept, split, clean, left⟩, owed, kept, split, clean, left,
      fun _ => ⟨left, ended⟩⟩

end TimelineSync

end Cutover
