import Cutover.Process.Alone
import Cutover.Proofs.Operation.Consults

set_option autoImplicit false

namespace Cutover.Operation

variable {α β : Type} {op : Operation α} {w : World} {done : α → World → Prop}
  {failed : TimelineError → World → Prop}

/-- The result of an operation and the world it leaves when nothing else acts. -/
def alone (op : Operation α) (w : World) : Except TimelineError α × World := op.run.runAlone w

/-- Run alone on a world, an operation succeeds as `done` tells or fails as `failed` tells. -/
def Ensures (op : Operation α) (done : α → World → Prop) (failed : TimelineError → World → Prop)
    (w : World) : Prop :=
  match op.alone w with
  | (.ok a, w') => done a w'
  | (.error e, w') => failed e w'

theorem Ensures.mono {done' : α → World → Prop} {failed' : TimelineError → World → Prop}
    (ensures : op.Ensures done failed w) (better : ∀ a w', done a w' → done' a w')
    (worse : ∀ e w', failed e w' → failed' e w') : op.Ensures done' failed' w := by
  rw [Ensures] at ensures ⊢
  split
  · next a w' result =>
    rw [result] at ensures
    exact better a w' ensures
  · next e w' result =>
    rw [result] at ensures
    exact worse e w' ensures

theorem ensures_any (held : ∀ a w', done a w') (lost : ∀ e w', failed e w') :
    op.Ensures done failed w := by
  rw [Ensures]
  split
  · exact held ..
  · exact lost ..

theorem ensures_pure {a : α} (held : done a w) : (pure a : Operation α).Ensures done failed w :=
  held

theorem ensures_throw {e : TimelineError} (held : failed e w) :
    (throw e : Operation α).Ensures done failed w := held

theorem ensures_bind {f : α → Operation β} {done : β → World → Prop}
    (ensures : op.Ensures (fun a w' => (f a).Ensures done failed w') failed w) :
    (op >>= f).Ensures done failed w := by
  rw [Ensures, alone] at ensures ⊢
  rw [ExceptT.run_bind, Process.bind_eq, Process.runAlone_bind]
  cases result : op.run.runAlone w with
  | mk answer w' =>
    rw [result] at ensures
    cases answer with
    | ok a => exact ensures
    | error e => exact ensures

theorem ensures_check {refused : Prop} [Decidable refused] {e : TimelineError}
    {rest : Unit → Operation β} {done : β → World → Prop} (fails : refused → failed e w)
    (passed : ¬ refused → (rest ()).Ensures done failed w) :
    (if refused then throw e >>= rest else rest ()).Ensures done failed w := by
  split
  · next refused => exact ensures_bind (ensures_throw (fails refused))
  · next unrefused => exact passed unrefused

theorem alone_bind_ok_iff {f : α → Operation β} {b : β} {w' : World} :
    (op >>= f).alone w = (.ok b, w') ↔
      ∃ a w₁, op.alone w = (.ok a, w₁) ∧ (f a).alone w₁ = (.ok b, w') := by
  rw [alone, ExceptT.run_bind, Process.bind_eq, Process.runAlone_bind]
  cases result : op.run.runAlone w with
  | mk answer w₁ =>
    cases answer with
    | ok a =>
      constructor
      · exact fun rest => ⟨a, w₁, result, rest⟩
      · rintro ⟨a', w₁', result', rest⟩
        obtain ⟨same, rfl⟩ := Prod.mk.inj (result.symm.trans result')
        obtain rfl := Except.ok.inj same
        exact rest
    | error e =>
      refine iff_of_false (fun ended => nomatch (Prod.mk.inj ended).1) ?_
      rintro ⟨a, w₁', result', -⟩
      exact nomatch (Prod.mk.inj (result.symm.trans result')).1

theorem ensures_look {view : World → α} (held : done (view w) w) :
    (look view).Ensures done failed w := held

theorem alone_look_bind (view : World → α) (f : α → Operation β) :
    (look view >>= f).alone w = (f (view w)).alone w := rfl

theorem ensures_call {action : World → Except TimelineError (α × World)}
    (succeeds : ∀ a w', action w = .ok (a, w') → done a w')
    (fails : ∀ e, action w = .error e → failed e w) : (call action).Ensures done failed w := by
  unfold Ensures alone call
  rw [ExceptT.run_mk, Process.runAlone_perform]
  cases result : action w with
  | ok both => exact succeeds both.1 both.2 result
  | error e => exact fails e result

theorem ensures_writeStore {write : Store → Except StoreError Store}
    {done : Unit → World → Prop}
    (succeeds : ∀ s, write w.store = .ok s → done () (w.withStore s))
    (fails : ∀ e, write w.store = .error e → failed (.ofStore e) w) :
    (writeStore write).Ensures done failed w := by
  refine ensures_call (fun a w' result => ?_) fun e result => ?_
  · split at result
    · next s written =>
      obtain ⟨_, rfl⟩ := Prod.mk.inj (Except.ok.inj result)
      exact succeeds s written
    · exact nomatch result
  · split at result
    · exact nomatch result
    · next fault written =>
      obtain rfl := Except.error.inj result
      exact fails fault written

theorem Consults.ensures {learns : World → α → World → Prop}
    {fails : World → TimelineError → Prop} (consults : op.Consults learns fails)
    (succeeds : ∀ a w', w.Consulted w' → learns w a w' → done a w')
    (fails' : ∀ e, fails w e → failed e w) : op.Ensures done failed w := by
  obtain ⟨action, rfl, told, refused⟩ := consults
  refine ensures_call (fun a w' result => ?_) fun e result => fails' e (refused w e result)
  obtain ⟨consulted, learnt⟩ := told w a w' result
  exact succeeds a w' consulted learnt

end Cutover.Operation
