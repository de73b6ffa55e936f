import Cutover.Service.Timelines

set_option autoImplicit false

namespace Cutover

/-- What a switch has come to before its fence: the timeline that was active, the worker of that
timeline's storage, and the new timeline. -/
structure Switch where
  active : Option Timeline
  worker : Nat
  next : Timeline

namespace Timelines

open Operation

def plan (eventType storageId : String) : Operation Switch := do
  let storage ←
    match ← getStorage storageId with
    | some storage => pure storage
    | none => throw (.storageNotFound storageId)
  findEventType eventType
  let active ← activeTimeline eventType
  let oldStorage ←
    match active with
    | some timeline => pure timeline.storage
    | none => Registry.defaultStorage
  let oldWorker ← workerFor oldStorage
  let newWorker ← workerFor storage
  let next ← prepare eventType storage active oldStorage oldWorker newWorker
  return ⟨active, oldWorker, next⟩

theorem switchTo_eq (sync : TimelineSync World) (e storageId : String) :
    switchTo sync e storageId = plan e storageId >>= fun s =>
      fenced sync e updateLimit (commit e s.active s.worker s.next) := by
  simp only [switchTo, plan, bind_assoc, pure_bind]
  refine bind_congr fun found => ?_
  cases found with
  | none => rfl
  | some storage =>
    simp only [bind_assoc]
    refine bind_congr fun _ => bind_congr fun active => ?_
    cases active <;> simp only [bind_assoc, pure_bind]

/-- A new event type's first timeline before it is stored. -/
def firstDraft (eventType : String) : Operation Timeline := do
  let worker ← defaultWorker
  let topic ← layOut worker eventType none false
  let storage ← storageOf worker
  let timeline ← newTimeline eventType 0 storage topic
  return { timeline with switchedAt := some timeline.createdAt }

theorem createFirst_eq (e : String) : createFirst e = firstDraft e >>= fun first => do
    writeStore (·.createTimeline first)
    return first := by
  simp only [createFirst, firstDraft, bind_assoc, pure_bind]

end Timelines

end Cutover
