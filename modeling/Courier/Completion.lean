import Courier.Fault

/-!
# How a call ends

A call to another component ends with a result, ends with a fault, or never ends. Components
with time limits turn the last case into a timeout; the others wait for ever.
-/

namespace Courier

/-- The end of a call: a result, a fault, or none at all. -/
inductive Completion (α : Type) where
  | done (a : α)
  | failed (f : Fault)
  | stalled

/-- A completion with its result dropped. -/
def Completion.erase {α : Type} : Completion α → Completion Unit
  | .done _ => .done ()
  | .failed f => .failed f
  | .stalled => .stalled

end Courier
