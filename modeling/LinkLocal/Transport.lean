/-!
Transports, the link layers that an interface may have.
-/
namespace LinkLocal

/-- The link layer below an interface. -/
inductive Transport where
  | ethernet
  | infiniband
  deriving DecidableEq, Repr, Inhabited

def Transport.name : Transport → String
  | .ethernet => "ethernet"
  | .infiniband => "infiniband"

end LinkLocal
