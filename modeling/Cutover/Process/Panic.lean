import Cutover.Process

set_option autoImplicit false

namespace Cutover

/-- A process that can panic, which carries a payload. -/
abbrev Unwinding (σ π α : Type) : Type 1 := ExceptT π (Process σ) α

namespace Unwinding

variable {σ π α β : Type}

/-- A process that never panics. -/
def calm (p : Process σ α) : Unwinding σ π α := ExceptT.mk (p.bind fun a => .done (.ok a))

/-- Runs a body to its end; a panic of the body is a result. -/
def catchUnwind (body : Unwinding σ π α) : Unwinding σ π (Except π α) := calm body.run

def resumeUnwind (payload : π) : Unwinding σ π α := ExceptT.mk (.done (.error payload))

/-- Runs a body while it owns something, and hands that over to `next`. What is owned is destroyed
if the body is dropped, and also if it panics, before the panic goes on. -/
def holding (destroyed : Option (Process σ Unit)) (body : Unwinding σ π β)
    (next : β → Unwinding σ π α) : Unwinding σ π α :=
  ExceptT.mk (Process.holding destroyed body.run fun
    | .ok b => (next b).run
    | .error payload => (Process.endScope destroyed).bind fun () => .done (.error payload))

/-- The result of something that never panics. -/
def calmly : Except Empty α → α
  | .ok a => a

end Unwinding

end Cutover
