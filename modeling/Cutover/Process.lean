set_option autoImplicit false

namespace Cutover

/-- A process on a state of type `σ` that ends with a result of type `α`. Others share the state:
between two actions any of them may act, and the process may be dropped. Nobody drops the tasks that
it starts. -/
inductive Process (σ : Type) : Type → Type 1 where
  /-- Ended. -/
  | done {α : Type} (result : α) : Process σ α
  /-- One atomic action. -/
  | act {α β : Type} (action : σ → β × σ) (next : β → Process σ α) : Process σ α
  /-- Waits until `ready`, for at most `limit` milliseconds; then `wake` is one atomic action. A
  process dropped while it waits does `withdraw`. -/
  | waiting {α β : Type} (ready : σ → Bool) (limit : Nat) (withdraw : σ → σ) (wake : σ → β × σ)
      (next : β → Process σ α) : Process σ α
  /-- Lets time pass. -/
  | pause {α : Type} (ms : Nat) (next : Process σ α) : Process σ α
  /-- Waits until a task has ended. -/
  | join {α : Type} (task : Nat) (next : Process σ α) : Process σ α
  /-- Starts a task and goes on with its number. -/
  | spawn {α : Type} (task : Process σ Unit) (next : Nat → Process σ α) : Process σ α
  /-- Runs a body while it owns something, and then hands that over to `next`. If it is dropped
  before, what it owns is destroyed, which starts a task. -/
  | owning {α β : Type} (destroyed : Process σ Unit) (body : Process σ β)
      (next : β → Process σ α) : Process σ α

namespace Process

variable {σ τ α β γ : Type}

def bind : {α : Type} → Process σ α → (α → Process σ β) → Process σ β
  | _, .done result, f => f result
  | _, .act action next, f => .act action fun b => (next b).bind f
  | _, .waiting ready limit withdraw wake next, f =>
      .waiting ready limit withdraw wake fun b => (next b).bind f
  | _, .pause ms next, f => .pause ms (next.bind f)
  | _, .join task next, f => .join task (next.bind f)
  | _, .spawn task next, f => .spawn task fun number => (next number).bind f
  | _, .owning destroyed body next, f => .owning destroyed body fun b => (next b).bind f

instance : Monad (Process σ) where
  pure := .done
  bind := .bind

@[simp] theorem bind_eq (p : Process σ α) (f : α → Process σ β) : p >>= f = p.bind f := rfl

@[simp] theorem bind_done (p : Process σ α) : p.bind .done = p := by
  induction p with
  | done => rfl
  | act action next ih => exact congrArg (act action) (funext ih)
  | waiting ready limit withdraw wake next ih =>
    exact congrArg (waiting ready limit withdraw wake) (funext ih)
  | pause ms next ih => exact congrArg (pause ms) ih
  | join task next ih => exact congrArg (join task) ih
  | spawn task next _ ih => exact congrArg (spawn task) (funext ih)
  | owning destroyed body next _ _ ih => exact congrArg (owning destroyed body) (funext ih)

theorem bind_assoc (p : Process σ α) (f : α → Process σ β) (g : β → Process σ γ) :
    (p.bind f).bind g = p.bind fun a => (f a).bind g := by
  induction p with
  | done => rfl
  | act action next ih => exact congrArg (act action) (funext fun b => ih b f)
  | waiting ready limit withdraw wake next ih =>
    exact congrArg (waiting ready limit withdraw wake) (funext fun b => ih b f)
  | pause ms next ih => exact congrArg (pause ms) (ih f)
  | join task next ih => exact congrArg (join task) (ih f)
  | spawn task next _ ih => exact congrArg (spawn task) (funext fun number => ih number f)
  | owning destroyed body next _ _ ih =>
    exact congrArg (owning destroyed body) (funext fun b => ih b f)

instance : LawfulMonad (Process σ) :=
  LawfulMonad.mk' _ (fun p => bind_done p) (fun _ _ => rfl) fun p f g => bind_assoc p f g

def perform (action : σ → α × σ) : Process σ α := .act action .done

def inspect (view : σ → α) : Process σ α := perform fun s => (view s, s)

def change (update : σ → σ) : Process σ Unit := perform fun s => ((), update s)

/-- A process on a part of a larger state. -/
def within (get : τ → σ) (set : τ → σ → τ) : {α : Type} → Process σ α → Process τ α
  | _, .done result => .done result
  | _, .act action next =>
      .act (fun t => ((action (get t)).1, set t (action (get t)).2)) fun b =>
        (next b).within get set
  | _, .waiting ready limit withdraw wake next =>
      .waiting (fun t => ready (get t)) limit (fun t => set t (withdraw (get t)))
        (fun t => ((wake (get t)).1, set t (wake (get t)).2)) fun b => (next b).within get set
  | _, .pause ms next => .pause ms (next.within get set)
  | _, .join task next => .join task (next.within get set)
  | _, .spawn task next => .spawn (task.within get set) fun number => (next number).within get set
  | _, .owning destroyed body next =>
      .owning (destroyed.within get set) (body.within get set) fun b => (next b).within get set

/-- Runs a body while it owns something whose destructor starts a task or does nothing. -/
def holding (destroyed : Option (Process σ Unit)) (body : Process σ β) (next : β → Process σ α) :
    Process σ α :=
  match destroyed with
  | none => body.bind next
  | some task => .owning task body next

/-- The end of a scope: what is still owned is destroyed. -/
def endScope : Option (Process σ Unit) → Process σ Unit
  | none => .done ()
  | some task => .spawn task fun _ => .done ()

end Process

end Cutover
