import Cutover.Proofs.Fence.Updates
import Cutover.Proofs.Timelines.Brackets
import Cutover.Proofs.Timelines.Contest

set_option autoImplicit false

namespace Cutover

def FenceRecorder.Logged (r r' : FenceRecorder) : Prop :=
  ∃ calls, r' = { r with calls := r.calls ++ calls }

theorem FenceRecorder.Logged.refl (r : FenceRecorder) : r.Logged r :=
  ⟨[], by rw [List.append_nil]⟩

theorem FenceRecorder.Logged.trans {r r' r'' : FenceRecorder} (first : r.Logged r')
    (second : r'.Logged r'') : r.Logged r'' := by
  obtain ⟨calls, rfl⟩ := first
  obtain ⟨more, rfl⟩ := second
  exact ⟨calls ++ more, by rw [List.append_assoc]⟩

theorem FenceRecorder.start_of_ok {r : FenceRecorder} {e : String} {limit : Duration}
    (started : (r.start e limit).1 = .ok ()) : r.refuseStart = none ∧
      (r.start e limit).2 = { r with calls := r.calls ++ [.start e limit] } := by
  rw [FenceRecorder.start] at started ⊢
  split
  · next refused =>
    rw [refused] at started
    cases started
  · next willing => exact ⟨willing, rfl⟩

namespace World

/-- The sync is one of the two there are; locks are in order for whoever uses them. -/
inductive FencedBy (w : World) : TimelineSync World → Prop
  | recording (delay : Nat) : FencedBy w (recordingSync delay)
  | locking {users : Multiset FenceUser} (sound : w.fences.Sound users) : FencedBy w localSync

/-- The same world, but for what is kept of fences that have started and ended. -/
def Resumed (w w' : World) : Prop :=
  ∃ fences recorder, w.fences.Logged fences ∧ w.recorder.Logged recorder ∧
    w' = { w with fences := fences, recorder := recorder }

/-- The fence of an event type can start at once. -/
def Clear (w : World) (sync : TimelineSync World) (e : String) (limit : Duration) : Prop :=
  ((sync.start e limit).runAlone w).1 = .ok ()

variable {w w' w'' v : World} {sync : TimelineSync World} {e : String} {limit : Duration}

theorem Resumed.trans (first : w.Resumed w') (second : w'.Resumed w'') : w.Resumed w'' := by
  obtain ⟨fences, recorder, logged, recorded, rfl⟩ := first
  obtain ⟨fences', recorder', logged', recorded', rfl⟩ := second
  exact ⟨fences', recorder', logged.trans logged', recorded.trans recorded', rfl⟩

theorem Resumed.withStore (resumed : w.Resumed w') (s : Store) :
    (w.withStore s).Resumed (w'.withStore s) := by
  obtain ⟨fences, recorder, logged, recorded, rfl⟩ := resumed
  exact ⟨fences, recorder, logged, recorded, rfl⟩

theorem start_localSync (w : World) (e : String) (limit : Duration) :
    (localSync.start e limit).runAlone w =
      (((LocalFences.sync.start e limit).runAlone w.fences).1,
        w.withFences ((LocalFences.sync.start e limit).runAlone w.fences).2) := by
  change (Process.within fences withFences (LocalFences.sync.start e limit)).runAlone w = _
  rw [Process.runAlone_within]
  · exact fun _ _ => rfl
  · exact fun _ => rfl
  · exact fun _ _ _ => rfl

theorem FencedBy.clear_congr (fencedBy : w.FencedBy sync) (fences : v.fences = w.fences)
    (recorder : v.recorder = w.recorder) : v.Clear sync e limit ↔ w.Clear sync e limit := by
  cases fencedBy with
  | recording delay => rw [Clear, Clear, start_recordingSync, start_recordingSync, recorder]
  | locking sound => rw [Clear, Clear, start_localSync, start_localSync, fences]

theorem FencedBy.congr (fencedBy : w.FencedBy sync) (fences : v.fences = w.fences) :
    v.FencedBy sync := by
  cases fencedBy with
  | recording delay => exact .recording delay
  | locking sound => exact .locking (fences ▸ sound)

theorem FencedBy.fencing {w₁ : World} {answer : Except FenceError Unit} (fencedBy : w.FencedBy sync)
    (started : (sync.start e limit).runAlone w = (answer, w₁)) : w.Fencing w₁ := by
  cases fencedBy with
  | recording delay =>
    rw [start_recordingSync] at started
    obtain ⟨-, rfl⟩ := Prod.mk.inj started
    refine ⟨w.fences, _, ?_, rfl⟩
    rw [FenceRecorder.start]
    split <;> rfl
  | locking sound =>
    rw [start_localSync] at started
    obtain ⟨-, rfl⟩ := Prod.mk.inj started
    exact ⟨_, w.recorder, rfl, rfl⟩

theorem finish_localSync (w : World) (e : String) : ((localSync.finish e).runAlone w).2 =
    w.withFences (LocalFences.finish e w.fences).2 := rfl

theorem finish_recordingSync (delay : Nat) (w : World) (e : String) :
    (((recordingSync delay).finish e).runAlone w).2 = w.record (.finish e) := rfl

/-- A fence that has started and ended, whatever was written to the store meanwhile, can start
again. -/
theorem FencedBy.resumes {w₁ : World} (fencedBy : w.FencedBy sync)
    (started : (sync.start e limit).runAlone w = (.ok (), w₁)) (s : Store) :
    (w.withStore s).Resumed ((sync.finish e).runAlone (w₁.withStore s)).2 ∧
      ((sync.finish e).runAlone (w₁.withStore s)).2.FencedBy sync ∧
      ((sync.finish e).runAlone (w₁.withStore s)).2.Clear sync e limit := by
  cases fencedBy with
  | recording delay =>
    rw [start_recordingSync] at started
    obtain ⟨starts, rfl⟩ := Prod.mk.inj started
    obtain ⟨willing, begun⟩ := FenceRecorder.start_of_ok starts
    rw [finish_recordingSync, begun]
    refine ⟨?_, .recording delay, ?_⟩
    · refine ⟨w.fences, _, .refl _, ⟨[.start e limit, .finish e], rfl⟩, ?_⟩
      simp [record, withRecorder, World.withStore]
    · rw [Clear, start_recordingSync, FenceRecorder.start]
      simp [record, withRecorder, World.withStore, willing]
  | locking sound =>
    rw [start_localSync] at started
    rcases result : (LocalFences.sync.start e limit).runAlone w.fences with ⟨answer, f₁⟩
    rw [result] at started
    obtain ⟨rfl, rfl⟩ := Prod.mk.inj started
    obtain ⟨sound', logged⟩ := sound.update result
    have free := (sound.starts_iff e limit).1 (congrArg Prod.fst result)
    rw [finish_localSync]
    change (w.withStore s).Resumed ((w.withStore s).withFences (LocalFences.finish e f₁).2) ∧
      ((w.withStore s).withFences (LocalFences.finish e f₁).2).FencedBy localSync ∧
      ((w.withStore s).withFences (LocalFences.finish e f₁).2).Clear localSync e limit
    generalize (LocalFences.finish e f₁).2 = f₂ at sound' logged
    refine ⟨⟨f₂, w.recorder, logged, .refl _, rfl⟩, .locking sound', ?_⟩
    rw [Clear, start_localSync]
    refine (sound'.starts_iff e limit).2 ?_
    rw [logged.views]
    exact free

end World

namespace Operation

variable {α : Type} {body : Operation α} {w : World} {sync : TimelineSync World} {e : String}
  {limit : Duration} {a : α}

/-- An operation that only writes to the store runs under its fence if that can start at once. -/
theorem alone_fenced_of_clear {s : Store} (fencedBy : w.FencedBy sync) (clear : w.Clear sync e limit)
    (runs : ∀ w₁, w.Fencing w₁ → body.alone w₁ = (.ok a, w₁.withStore s)) :
    ∃ w', (fenced sync e limit body).alone w = (.ok a, w') ∧ (w.withStore s).Resumed w' ∧
      w'.FencedBy sync ∧ w'.Clear sync e limit := by
  rcases started : (sync.start e limit).runAlone w with ⟨answer, w₁⟩
  rw [World.Clear, started] at clear
  obtain rfl := clear
  have ran := runs w₁ (fencedBy.fencing started)
  refine ⟨_, ?_, fencedBy.resumes started s⟩
  rw [alone_fenced, started]
  dsimp only
  rw [ran]

theorem alone_fenced_ok {w' : World} (fencedBy : w.FencedBy sync)
    (result : (fenced sync e limit body).alone w = (.ok a, w')) :
    w.Clear sync e limit ∧ ∃ w₁ w₂, w.Fencing w₁ ∧ body.alone w₁ = (.ok a, w₂) := by
  rw [alone_fenced] at result
  rcases started : (sync.start e limit).runAlone w with ⟨fault | ⟨⟩, w₁⟩
  · rw [started] at result
    exact nomatch (Prod.mk.inj result).1
  · rw [started] at result
    refine ⟨congrArg Prod.fst started, w₁, (body.alone w₁).2, fencedBy.fencing started, ?_⟩
    exact Prod.ext (Prod.mk.inj result).1 rfl

end Operation

end Cutover
