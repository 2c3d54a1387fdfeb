/-!
How a text can fail to be JSON: it may break off, or it may hold something that cannot stand where
it stands.
-/
namespace LinkLocal.Json

/-- Why a text is not JSON. -/
inductive Fault where
  | truncated
  | malformed
  deriving DecidableEq, Repr

/-- What is left of a text, with the value that was read from its front. -/
abbrev Reading (α : Type) := Except Fault (α × List Char)

end LinkLocal.Json
