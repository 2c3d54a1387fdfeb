import LinkLocal.Host
import LinkLocal.Table

/-!
A registry of backends: factories of detectors by name, so that a setting can pick one of them. A
later registration under a name takes the place of an earlier one.
-/
namespace LinkLocal

/-- Factories by name. -/
structure Registry (σ δ : Type) where
  backends : Table String (Factory σ δ) := {}

namespace Registry

variable {σ δ : Type} [Journal σ]

def register (name : String) (f : Factory σ δ) (r : Registry σ δ) (s : σ) : Registry σ δ × σ :=
  (⟨r.backends.insert name f⟩, Journal.note (.registered name) s)

omit [Journal σ] in
def has (r : Registry σ δ) (name : String) : Bool := r.backends.contains name

omit [Journal σ] in
def names (r : Registry σ δ) : List String := r.backends.keys.mergeSort (· ≤ ·)

omit [Journal σ] in
def createDetector (r : Registry σ δ) (name : String) (s : σ) : Except Error δ × σ :=
  match r.backends.get? name with
  | none => (.error (.invalidArgument (.unregistered name)), s)
  | some f =>
    match f.create s with
    | (.ok handle, s) => (.ok handle, s)
    | (.error fault, s) => (.error (.ofDetector fault), s)

/-- Makes an engine with a detector of the backend of a name. -/
def createEngine (r : Registry σ δ) (name : String) (s : σ) : Except Error (δ × Engine) × σ :=
  match r.createDetector name s with
  | (.error e, s) => (.error e, s)
  | (.ok handle, s) => let h := Host.create s; (.ok (handle, h.engine), h.world)

end Registry
end LinkLocal
