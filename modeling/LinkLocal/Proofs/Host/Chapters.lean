import LinkLocal.Config
import LinkLocal.Proofs.Network.Marks
import Mathlib.Data.List.Basic

/-! How a story goes. The story of a run of an engine has a chapter for each candidate that is
probed. A chapter begins with the probe; then the owner may be told that the candidate is
ready, and once the candidate is announced, of defenses, and at last of the conflict in which
it was lost. The last chapter may break off, and the story may end with the link going down.
Where the conflict policy is to stop, nothing follows a conflict. -/
namespace LinkLocal

/-- The story of a candidate that was announced and defended against these claims. -/
def defending (a : IPv4) (claims : List Packet) : List Mark :=
  [.probed a, .queued (.ready a), .announced] ++ claims.map fun k => .queued (.defended k)

/-- The story of a candidate, told to its end. -/
inductive Chapter (a : IPv4) : List Mark → Prop where
  /-- It was in use. -/
  | taken : Chapter a [.probed a]
  /-- It was claimed before its announcement. -/
  | lost : Chapter a [.probed a, .queued (.ready a)]
  /-- It was given up in the end. -/
  | yielded (claims : List Packet) (claim : Packet) (aimed : ∀ k ∈ claims, k.target = a)
      (target : claim.target = a) : Chapter a (defending a claims ++ [.queued (.conflict claim)])

/-- Chapters that are told to their ends, one after another. -/
inductive Chapters : List Mark → Prop where
  | none : Chapters []
  | more {story l : List Mark} {a : IPv4} (before : Chapters story) (next : Chapter a l) :
      Chapters (story ++ l)

/-- The story of a run: a chapter for each candidate, of which the last one may break off, and
then the link may have gone down. -/
def IsStory (story : List Mark) : Prop :=
  ∃ (whole last rest ending : List Mark) (a : IPv4),
    story = whole ++ last ++ ending ∧ Chapters whole ∧ Chapter a (last ++ rest) ∧ last ≠ [] ∧
      (ending = [] ∨ ending = [.queued .down])

/-- Nothing follows a conflict. -/
def ConflictLast (story : List Mark) : Prop :=
  ∀ before claim later, story = before ++ .queued (.conflict claim) :: later → later = []

/-- No conflict is told of. -/
def Undisputed (story : List Mark) : Prop := ∀ claim, .queued (.conflict claim) ∉ story

/-- The last of these marks ends the run: the link has gone down, or the address was lost and
the policy is to stop. -/
def EndsRun (policy : ConflictPolicy) (marks : List Mark) : Prop :=
  marks.getLast? = some (.queued .down) ∨
    policy = .stop ∧ ∃ claim, marks.getLast? = some (.queued (.conflict claim))

variable {policy : ConflictPolicy} {a : IPv4} {story l m : List Mark}

theorem EndsRun.append (ends : EndsRun policy m) (l : List Mark) : EndsRun policy (l ++ m) := by
  have last {x : Mark} (ends : m.getLast? = some x) : (l ++ m).getLast? = some x := by
    rw [List.getLast?_append, ends]
    rfl
  rcases ends with down | ⟨stops, claim, lost⟩
  · exact .inl (last down)
  · exact .inr ⟨stops, claim, last lost⟩

theorem Undisputed.append (first : Undisputed l) (second : Undisputed m) :
    Undisputed (l ++ m) := fun claim member =>
  (List.mem_append.mp member).elim (first claim) (second claim)

theorem Undisputed.conflictLast (undisputed : Undisputed story) : ConflictLast story := by
  intro before claim later told
  refine absurd ?_ (undisputed claim)
  rw [told]
  exact List.mem_append_right _ List.mem_cons_self

theorem Undisputed.conflictLast_concat (undisputed : Undisputed story) (claim : Packet) :
    ConflictLast (story ++ [.queued (.conflict claim)]) := by
  intro before claim' later told
  rcases List.eq_nil_or_concat later with rfl | ⟨rest, last, rfl⟩
  · rfl
  · -- A conflict before the last mark would be one of the marks before it.
    rw [List.concat_eq_append, ← List.cons_append, ← List.append_assoc] at told
    obtain ⟨same, _⟩ := List.append_inj' told rfl
    refine absurd ?_ (undisputed claim')
    rw [same]
    exact List.mem_append_right _ List.mem_cons_self

end LinkLocal
