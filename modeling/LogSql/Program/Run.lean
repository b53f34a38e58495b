import LogSql.Host

/-!
Tasks of programs: steps in some surroundings, any of which may end the task with an error.
-/
namespace LogSql

/-- A task that may fail. -/
abbrev Run (ε : Type) (m : Type → Type) := ExceptT ε m

namespace Run

variable {ε δ α : Type} {m : Type → Type} [Monad m]

/-- Takes over a result. -/
def result (wrap : δ → ε) (r : Except δ α) : Run ε m α := ExceptT.mk (pure (r.mapError wrap))

/-- Takes over what an operation comes to. -/
def operation (wrap : δ → ε) (r : m (Except δ α)) : Run ε m α := do
  result wrap (← ExceptT.lift r)

end Run
end LogSql
