import Cutover.Proofs.Reachable
import Cutover.Proofs.Timelines.Cursors

set_option autoImplicit false

namespace Cutover

/-- A cursor that names a stored timeline which is not of the event type. -/
def Cursor.Foreign (cursor : Cursor) (s : Store) (e : String) : Prop :=
  ∃ partition id offset t, cursor = .onTimeline partition id offset ∧ s.timeline? id = some t ∧
    t.eventType ≠ e

/-- Where a cursor leads to. -/
inductive Cursor.LeadsTo (s : Store) (e : String) : Cursor → Timeline → Prop where
  /-- A legacy cursor leads to the layout of the event type, which is not stored. -/
  | layout {partition offset : String} {t : Timeline} (named : t.eventType = e) (topic : t.topic = e)
      (fake : t.fake = true) : LeadsTo s e (.legacy partition offset) t
  /-- Another one leads to the stored timeline with the id that it names. -/
  | timeline {partition offset : String} {t : Timeline} (stored : s.timeline? t.id = some t) :
      LeadsTo s e (.onTimeline partition t.id offset) t

namespace Timelines

open Operation

variable {w w' : World} {e : String} {cursor : Cursor} {t : Timeline} {sync : TimelineSync World}

theorem ensures_layout (e : String) (w : World) : (synthetic e).Ensures
    (fun t _ => t.eventType = e ∧ t.topic = e ∧ t.fake = true) (fun _ _ => True) w := by
  apply (asks_defaultWorker w).bind _ fun _ _ _ => trivial
  rintro number w - -
  apply ensures_call
  · intro t w' result
    split at result
    · exact nomatch result
    · obtain ⟨rfl, rfl⟩ := Prod.mk.inj (Except.ok.inj result)
      exact ⟨rfl, rfl, rfl⟩
  · exact fun _ _ => trivial

theorem ensures_leadsTo (keyed : w.store.Keyed) (e : String) (cursor : Cursor) :
    (resolve e cursor).Ensures (fun t _ => cursor.LeadsTo w.store e t) (fun _ _ => True) w := by
  cases cursor with
  | legacy partition offset =>
    apply (ensures_layout e w).mono
    · rintro t _ ⟨named, topic, fake⟩
      exact .layout named topic fake
    · exact fun _ _ _ => trivial
  | onTimeline partition id offset =>
    apply ensures_bind
    apply ensures_look
    cases stored : w.store.timeline? id with
    | none => exact ensures_throw trivial
    | some t =>
      obtain rfl := keyed id t stored
      exact ensures_pure (.timeline stored)

end Timelines

/-- A cursor leads to a timeline of the event type unless it names one of another event type. -/
theorem Cursor.LeadsTo.eventType_iff {s : Store} {e : String} {cursor : Cursor} {t : Timeline}
    (leads : cursor.LeadsTo s e t) : t.eventType = e ↔ ¬cursor.Foreign s e := by
  cases leads with
  | layout named =>
    refine iff_of_true named ?_
    rintro ⟨_, _, _, _, same, _⟩
    exact nomatch same
  | timeline stored =>
    constructor
    · rintro named ⟨_, _, _, u, same, found, other⟩
      cases same
      obtain rfl := Option.some.inj (stored.symm.trans found)
      exact other named
    · intro own
      by_contra other
      exact own ⟨_, _, _, t, rfl, stored, other⟩

/-- Wherever calls of the service have come to, a cursor that is resolved for an event type leads to
the layout of that event type or to the stored timeline that it names; and that is one of the event
type just if the cursor does not name a stored timeline of another one. -/
theorem cursors_resolved {sync : TimelineSync World} (own : sync.Only World.Fencing)
    {w w' : World} (reachable : w.Reachable sync) {e : String} {cursor : Cursor} {t : Timeline}
    (resolved : (Timelines.resolve e cursor).alone w = (.ok t, w')) :
    cursor.LeadsTo w.store e t ∧ (t.eventType = e ↔ ¬cursor.Foreign w.store e) := by
  have leads := (Timelines.ensures_leadsTo (reachable.keyed own) e cursor).of_ok resolved
  exact ⟨leads, leads.eventType_iff⟩

def World.paired : World :=
  (Pool.begun World.unwritten
    ([.timelines (.createFirst "orders"), .timelines (.createFirst "payments")].map
      fun call : ServiceCall => (call.under World.localSync).run)
    (List.replicate 6 (.call 0) ++ List.replicate 6 (.call 1))).state

theorem World.reachable_paired : World.paired.Reachable World.localSync := reachable_begun rfl

/-- A cursor that names the timeline of its own event type. -/
theorem cursors_resolved_own : ∃ t : Timeline,
    (Timelines.resolve "payments" (.onTimeline "0" t.id "7")).alone World.paired =
      (.ok t, World.paired) ∧ t.order = 0 ∧ t.topic = "payments-1" ∧ t.eventType = "payments" := by
  let t := (World.paired.store.timeline? ⟨2⟩).getD default
  have stored : World.paired.store.timeline? t.id = some t := by decide +kernel
  have own : ¬(Cursor.onTimeline "0" t.id "7").Foreign World.paired.store "payments" := by
    rintro ⟨_, _, _, u, names, found, other⟩
    cases names
    obtain rfl := Option.some.inj (stored.symm.trans found)
    exact other (by decide +kernel)
  have resolved : (Timelines.resolve "payments" (.onTimeline "0" t.id "7")).alone World.paired =
      (.ok t, World.paired) := Timelines.resolve_onTimeline stored
  refine ⟨t, resolved, by decide +kernel, by decide +kernel, ?_⟩
  exact (cursors_resolved World.fencing_localSync World.reachable_paired resolved).2.2 own

/-- A cursor that names the timeline of another event type leads there; that timeline is not deleted
for an event type which it is not of. -/
theorem cursor_leaves_stream : ∃ (w : World) (cursor : Cursor) (t : Timeline),
    w.Reachable World.localSync ∧
      (Timelines.resolve "payments" cursor).alone w = (.ok t, w) ∧ t.eventType ≠ "payments" ∧
        ((Timelines.delete World.localSync "payments" t.id).alone w).1 =
          .error (.eventTypeMismatch t.eventType "payments") := by
  let t := (World.paired.store.timeline? ⟨1⟩).getD default
  have stored : World.paired.store.timeline? ⟨1⟩ = some t := by decide +kernel
  refine ⟨.paired, .onTimeline "0" ⟨1⟩ "7", t, World.reachable_paired,
    Timelines.resolve_onTimeline stored, by decide +kernel, ?_⟩
  decide +kernel

end Cutover
