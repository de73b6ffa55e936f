import Cutover.Process

set_option autoImplicit false

namespace Cutover.Process

variable {σ τ α β : Type}

/-- The result and the state when nothing else acts: a wait that is not over at once runs into its
limit, and a task that is started runs at once. -/
def runAlone : {α : Type} → Process σ α → σ → α × σ
  | _, .done result, s => (result, s)
  | _, .act action next, s => (next (action s).1).runAlone (action s).2
  | _, .waiting _ _ _ wake next, s => (next (wake s).1).runAlone (wake s).2
  | _, .pause _ next, s => next.runAlone s
  | _, .join _ next, s => next.runAlone s
  | _, .spawn task next, s => (next 0).runAlone (task.runAlone s).2
  | _, .owning _ body next, s => (next (body.runAlone s).1).runAlone (body.runAlone s).2

@[simp] theorem runAlone_perform (action : σ → α × σ) (s : σ) :
    (perform action).runAlone s = action s := rfl

theorem runAlone_bind (p : Process σ α) (f : α → Process σ β) (s : σ) :
    (p.bind f).runAlone s = (f (p.runAlone s).1).runAlone (p.runAlone s).2 := by
  induction p generalizing s with
  | done => rfl
  | act action next ih => exact ih _ _ _
  | waiting ready limit withdraw wake next ih => exact ih _ _ _
  | pause ms next ih => exact ih _ _
  | join task next ih => exact ih _ _
  | spawn task next _ ih => exact ih _ _ _
  | owning destroyed body next _ _ ih => exact ih _ _ _

theorem runAlone_within {get : τ → σ} {set : τ → σ → τ} (get_set : ∀ t s, get (set t s) = s)
    (set_get : ∀ t, set t (get t) = t) (set_set : ∀ t s s', set (set t s) s' = set t s')
    (p : Process σ α) (t : τ) :
    (p.within get set).runAlone t = ((p.runAlone (get t)).1, set t (p.runAlone (get t)).2) := by
  induction p generalizing t with
  | done => simp [within, runAlone, set_get]
  | act action next ih => simp [within, runAlone, ih, get_set, set_set]
  | waiting ready limit withdraw wake next ih => simp [within, runAlone, ih, get_set, set_set]
  | pause ms next ih => simp [within, runAlone, ih]
  | join task next ih => simp [within, runAlone, ih]
  | spawn task next ihTask ih => simp [within, runAlone, ihTask, ih, get_set, set_set]
  | owning destroyed body next _ ihBody ih => simp [within, runAlone, ihBody, ih, get_set, set_set]

end Cutover.Process
