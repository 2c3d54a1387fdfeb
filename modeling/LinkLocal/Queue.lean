/-!
Queues: what is pushed first is popped first. A queue is kept as two lists, so that both of its ends
are at hand. Main statements: what a queue holds, as a list with the oldest item first, after each
operation.
-/
namespace LinkLocal

/-- A queue. -/
structure Queue (α : Type) where
  /-- The items at the front, oldest first. -/
  front : List α := []
  /-- The items behind them, latest first. -/
  back : List α := []
  deriving DecidableEq, Repr

namespace Queue

variable {α : Type}

/-- What a queue holds, oldest first. -/
def toList (q : Queue α) : List α := q.front ++ q.back.reverse

def isEmpty (q : Queue α) : Bool := q.front.isEmpty && q.back.isEmpty

def length (q : Queue α) : Nat := q.front.length + q.back.length

def push (a : α) (q : Queue α) : Queue α := { q with back := a :: q.back }

def pop? (q : Queue α) : Option (α × Queue α) :=
  match q.front with
  | a :: front => some (a, { q with front })
  | [] =>
    match q.back.reverse with
    | a :: front => some (a, { front })
    | [] => none

/-- A new queue holds nothing. -/
@[simp]
theorem toList_empty : ({} : Queue α).toList = [] := rfl

/-- What is pushed comes last. -/
@[simp]
theorem toList_push (a : α) (q : Queue α) : (q.push a).toList = q.toList ++ [a] := by
  simp [toList, push]

/-- The length counts what a queue holds. -/
@[simp]
theorem length_toList (q : Queue α) : q.toList.length = q.length := by
  simp [toList, length]

/-- A queue is empty exactly if it holds nothing. -/
theorem isEmpty_iff (q : Queue α) : q.isEmpty = true ↔ q.toList = [] := by
  simp [isEmpty, toList]

/-- Nothing can be taken from a queue exactly if it holds nothing. -/
theorem pop?_eq_none_iff (q : Queue α) : q.pop? = none ↔ q.toList = [] := by
  obtain ⟨front, back⟩ := q
  cases front with
  | cons a front => simp [pop?, toList]
  | nil => cases h : back.reverse <;> simp [pop?, toList, h]

/-- What is taken was the first item, and the others stay. -/
theorem toList_of_pop? {q rest : Queue α} {a : α} (h : q.pop? = some (a, rest)) :
    q.toList = a :: rest.toList := by
  obtain ⟨front, back⟩ := q
  cases front with
  | cons b front =>
    obtain ⟨rfl, rfl⟩ : b = a ∧ ⟨front, back⟩ = rest := by simpa [pop?] using h
    rfl
  | nil =>
    cases hb : back.reverse with
    | nil => simp [pop?, hb] at h
    | cons b front =>
      obtain ⟨rfl, rfl⟩ : b = a ∧ ⟨front, []⟩ = rest := by simpa [pop?, hb] using h
      simp [toList, hb]

end Queue
end LinkLocal
