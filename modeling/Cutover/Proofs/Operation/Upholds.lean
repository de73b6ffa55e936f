import Cutover.Proofs.Operation.Consults
import Cutover.Proofs.Reliance

set_option autoImplicit false

namespace Cutover.Operation

variable {α β ρ : Type} {R : Rules World ρ} {k : R.Footing} {op : Operation α}
  {done : α → R.Footing → Prop} {failed : TimelineError → R.Footing → Prop}

/-- An operation keeps to the rules; it succeeds as `done` tells or fails as `failed` tells. -/
def Upholds (R : Rules World ρ) (op : Operation α) (done : α → R.Footing → Prop)
    (failed : TimelineError → R.Footing → Prop) (k : R.Footing) : Prop :=
  R.Upholds op.run
    (fun result k => match result with
      | .ok a => done a k
      | .error e => failed e k) k

theorem Upholds.mono {done' : α → R.Footing → Prop} {failed' : TimelineError → R.Footing → Prop}
    (upholds : op.Upholds R done failed k) (better : ∀ a k, done a k → done' a k)
    (worse : ∀ e k, failed e k → failed' e k) : op.Upholds R done' failed' k := by
  refine Rules.Upholds.mono upholds ?_
  rintro (e | a) k held
  · exact worse e k held
  · exact better a k held

/-- An operation keeps to the rules, whatever comes of it. -/
def Obeys (R : Rules World ρ) (op : Operation α) (k : R.Footing) : Prop :=
  op.Upholds R (fun _ _ => True) (fun _ _ => True) k

theorem upholds_pure {a : α} (held : done a k) : (pure a : Operation α).Upholds R done failed k :=
  held

theorem upholds_throw {e : TimelineError} (held : failed e k) :
    (throw e : Operation α).Upholds R done failed k := held

theorem upholds_bind {f : α → Operation β} {done : β → R.Footing → Prop}
    (upholds : op.Upholds R (fun a k => (f a).Upholds R done failed k) failed k) :
    (op >>= f).Upholds R done failed k := by
  rw [Upholds, ExceptT.run_bind]
  refine Rules.upholds_bind (Rules.Upholds.mono upholds ?_)
  rintro (e | a) k held
  · exact held
  · exact held

theorem Obeys.map {f : α → β} (obeys : op.Obeys R k) : (op >>= fun a => pure (f a)).Obeys R k := by
  apply upholds_bind
  apply Upholds.mono obeys
  · exact fun a k' _ => upholds_pure trivial
  · exact fun e k' _ => trivial

theorem upholds_check {refused : Prop} [Decidable refused] {e : TimelineError}
    {rest : Unit → Operation β} {done : β → R.Footing → Prop} (fails : refused → failed e k)
    (passed : ¬ refused → (rest ()).Upholds R done failed k) :
    (if refused then throw e >>= rest else rest ()).Upholds R done failed k := by
  split
  · next refused => exact upholds_bind (upholds_throw (fails refused))
  · next unrefused => exact passed unrefused

theorem upholds_call {action : World → Except TimelineError (α × World)}
    (succeeds : ∀ w a w', action w = .ok (a, w') → ∃ k', R.Moves k w k' w' ∧ done a k')
    (fails : ∀ w e, action w = .error e → ∃ k', R.Moves k w k' w ∧ failed e k') :
    (call action).Upholds R done failed k := by
  refine Rules.upholds_act fun w => ?_
  cases result : action w with
  | error e =>
    dsimp only
    exact fails w e result
  | ok both =>
    dsimp only
    exact succeeds w both.1 both.2 result

theorem upholds_look {view : World → α} (fact : α → World → Prop)
    (stable : ∀ a, R.Stable (fact a))
    (learns : ∀ w others, R.provided w → R.holds w (k.owns + others) → k.holds w →
      fact (view w) w)
    (held : ∀ a k', k.Learns (fact a) k' → done a k') : (look view).Upholds R done failed k :=
  Rules.upholds_act fun w => ⟨_, Rules.moves_also (stable (view w)) (learns w),
    held (view w) _ (Rules.Footing.learns_also _)⟩

theorem upholds_glance {view : World → α} (held : ∀ a, done a k) :
    (look view).Upholds R done failed k :=
  Rules.upholds_act fun w => ⟨k, R.moves_refl k w, held (view w)⟩

theorem upholds_writeStore {write : Store → Except StoreError Store}
    {done : Unit → R.Footing → Prop}
    (succeeds : ∀ w s, write w.store = .ok s → ∃ k', R.Moves k w k' (w.withStore s) ∧ done () k')
    (fails : ∀ w e, write w.store = .error e → ∃ k', R.Moves k w k' w ∧ failed (.ofStore e) k') :
    (writeStore write).Upholds R done failed k := by
  refine upholds_call (fun w a w' result => ?_) fun w e result => ?_
  · split at result
    · next s written =>
      obtain ⟨_, rfl⟩ := Prod.mk.inj (Except.ok.inj result)
      exact succeeds w s written
    · exact nomatch result
  · split at result
    · exact nomatch result
    · next fault written =>
      obtain rfl := Except.error.inj result
      exact fails w fault written

theorem upholds_write {write : Store → Except StoreError Store} {done : Unit → R.Footing → Prop}
    (moves : ∀ w s, write w.store = .ok s → R.Moves k w k (w.withStore s)) (held : done () k)
    (held' : ∀ e, failed e k) : (writeStore write).Upholds R done failed k := by
  apply upholds_writeStore
  · exact fun w s written => ⟨k, moves w s written, held⟩
  · exact fun w e _ => ⟨k, R.moves_refl k w, held' _⟩

theorem upholds_newTimeline {e topic : String} {order : Nat} {storage : Storage}
    {done : Timeline → R.Footing → Prop}
    (drawn : ∀ w : World, ∃ k', R.Moves k w k' { w with ids := w.ids.draw.2 } ∧
      done (.fresh w.ids.draw.1 e order storage topic w.clock) k') :
    (newTimeline e order storage topic).Upholds R done failed k := by
  refine upholds_call (fun w t w' result => ?_) fun _ _ result => nomatch result
  obtain ⟨rfl, rfl⟩ := Prod.mk.inj (Except.ok.inj result)
  exact drawn w

theorem upholds_fenced {kind : World → World → Prop} {sync : TimelineSync World} {e : String}
    {limit : Duration} (only : sync.Only kind) (harmless : ∀ w w', kind w w' → R.Harmless w w')
    (refused : ∀ fault, failed (.fence fault) k) (upholds : op.Upholds R done failed k) :
    (fenced sync e limit op).Upholds R done failed k :=
  TimelineSync.upholds_fenced only harmless refused upholds

theorem upholds_unrefused {kind : World → World → Prop} {fit : World → Prop}
    {sync : TimelineSync World} {e : String} {limit : Duration} (only : sync.Only kind)
    (starts : sync.Starts fit) (harmless : ∀ w w', kind w w' → R.Harmless w w')
    (fits : ∀ w owned, R.provided w → R.holds w owned → fit w)
    (refused : ∀ fault k', k'.Grants (fun _ => False) → failed (.fence fault) k')
    (upholds : ∀ k' : R.Footing, k'.owns = k.owns → k'.Firmer k → op.Upholds R done failed k') :
    (fenced sync e limit op).Upholds R done failed k :=
  TimelineSync.upholds_unrefused only starts harmless fits refused upholds

section Consulting

variable {learns : World → α → World → Prop} {fails : World → TimelineError → Prop}

theorem Consults.upholds (consults : op.Consults learns fails)
    (harmless : ∀ w w', w.Consulted w' → R.Harmless w w') (fact : α → World → Prop)
    (fault : TimelineError → World → Prop) (stable : ∀ a, R.Stable (fact a))
    (stable' : ∀ e, R.Stable (fault e))
    (learnt : ∀ w a w' others, R.holds w (k.owns + others) → k.holds w → w.Consulted w' →
      learns w a w' → fact a w')
    (refused : ∀ w e others, R.holds w (k.owns + others) → k.holds w → fails w e → fault e w)
    (held : ∀ a k', k.Learns (fact a) k' → done a k')
    (held' : ∀ e k', k.Learns (fault e) k' → failed e k') : op.Upholds R done failed k := by
  obtain ⟨action, rfl, told, told'⟩ := consults
  refine upholds_call (fun w a w' result => ?_) fun w e result => ?_
  · obtain ⟨consulted, learns⟩ := told w a w' result
    have moves := (harmless w w' consulted).moves k
    refine ⟨_, ⟨moves.provided, fun provided others holds known => ?_⟩,
      held a _ (Rules.Footing.learns_also (stable a))⟩
    obtain ⟨step, known', holds'⟩ := moves.moves provided others holds known
    exact ⟨step, ⟨known', learnt w a w' others holds known consulted learns⟩, holds'⟩
  · refine ⟨_, Rules.moves_also (stable' e) fun others _ holds known => ?_,
      held' e _ (Rules.Footing.learns_also (stable' e))⟩
    exact refused w e others holds known (told' w e result)

theorem Consults.upholds_moves (consults : op.Consults learns fails)
    (moves : ∀ w a w', learns w a w' → ∃ k', R.Moves k w k' w' ∧ done a k')
    (held' : ∀ e, failed e k) : op.Upholds R done failed k := by
  obtain ⟨action, rfl, told, _⟩ := consults
  refine upholds_call (fun w a w' result => ?_) fun w e _ => ?_
  · exact moves w a w' (told w a w' result).2
  · exact ⟨k, R.moves_refl k w, held' e⟩

theorem Consults.upholds_asking (consults : op.Consults learns fails)
    (still : ∀ w a w', learns w a w' → w' = w) (fact : α → World → Prop)
    (stable : ∀ a, R.Stable (fact a))
    (learnt : ∀ w a others, R.holds w (k.owns + others) → k.holds w → learns w a w → fact a w)
    (held : ∀ a k', k.Learns (fact a) k' → done a k') (held' : ∀ e, failed e k) :
    op.Upholds R done failed k := by
  apply consults.upholds_moves _ held'
  intro w a w' learns
  obtain rfl := still w a w' learns
  exact ⟨_, Rules.moves_also (stable a) fun others _ holds known => learnt w' a others holds known
    learns, held a _ (Rules.Footing.learns_also (stable a))⟩

theorem Consults.upholds_quietly (consults : op.Consults learns fails)
    (harmless : ∀ w w', w.Consulted w' → R.Harmless w w') (held : ∀ a, done a k)
    (held' : ∀ e, failed e k) : op.Upholds R done failed k := by
  obtain ⟨action, rfl, told, _⟩ := consults
  refine upholds_call (fun w a w' result => ?_) fun w e _ => ?_
  · exact ⟨k, (harmless w w' (told w a w' result).1).moves k, held a⟩
  · exact ⟨k, R.moves_refl k w, held' e⟩

end Consulting

end Cutover.Operation
