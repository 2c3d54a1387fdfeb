import LinkLocal.Json.Blank

/-!
Quoted strings: reading behind the opening quote up to the closing one. A string is read strictly
where its characters matter, so that every escaped surrogate has to be half of a pair, and laxly
where they do not, with a replacement character for a half that stands alone.
-/
namespace LinkLocal.Json

def hexValue? (c : Char) : Option Nat :=
  if '0' ≤ c ∧ c ≤ '9' then some (c.toNat - 48)
  else if 'a' ≤ c ∧ c ≤ 'f' then some (c.toNat - 87)
  else if 'A' ≤ c ∧ c ≤ 'F' then some (c.toNat - 55)
  else none

def holdsBytes : (n : Nat) → List Char → Bool
  | 0, _ => true
  | _ + 1, [] => false
  | n + 1, c :: cs => holdsBytes (n + 1 - c.utf8Size) cs

/-- The code unit spelled by the four hexadecimal digits at the front of a text. A text of fewer
than four bytes breaks off; otherwise a character that is no digit is at fault. -/
def unit (cs : List Char) : Except Fault Nat :=
  if holdsBytes 4 cs then
    match (cs.take 4).mapM hexValue? with
    | some [a, b, c, d] => .ok (((a * 16 + b) * 16 + c) * 16 + d)
    | _ => .error .malformed
  else .error .truncated

/-- The character that a single letter behind a backslash stands for. -/
def simpleEscape? : Char → Option Char
  | '"' => some '"'
  | '\\' => some '\\'
  | '/' => some '/'
  | 'b' => some (Char.ofNat 8)
  | 'f' => some (Char.ofNat 12)
  | 'n' => some '\n'
  | 'r' => some '\r'
  | 't' => some '\t'
  | _ => none

/-- Whether a code unit is the first half of a surrogate pair. -/
def isLeading (u : Nat) : Bool := 0xd800 ≤ u && u ≤ 0xdbff

/-- Whether a code unit is the second half of a surrogate pair. -/
def isTrailing (u : Nat) : Bool := 0xdc00 ≤ u && u ≤ 0xdfff

def pairChar (lead trail : Nat) : Char :=
  Char.ofNat (0x10000 + (lead - 0xd800) * 0x400 + (trail - 0xdc00))

/-- What stands behind the first half of a pair: the second half, and how much text the escape
takes. -/
def trailing (cs : List Char) : Except Fault Nat :=
  match cs with
  | [] => .error .truncated
  | '\\' :: [] => .error .truncated
  | '\\' :: 'u' :: cs => do
    let u ← unit cs
    if isTrailing u then .ok u else .error .malformed
  | _ => .error .malformed

/-- Reads the four digits of an escape, and the other half of a pair where one has to follow. The
result is the character and the number of characters that the escape takes behind its `u`. -/
def escaped (strict : Bool) (cs : List Char) : Except Fault (Char × Nat) := do
  let u ← unit cs
  if isTrailing u then
    if strict then .error .malformed else .ok ('\uFFFD', 4)
  else if isLeading u then
    match trailing (cs.drop 4) with
    | .ok t => .ok (pairChar u t, 10)
    | .error fault => if strict then .error fault else .ok ('\uFFFD', 4)
  else .ok (Char.ofNat u, 4)

/-- Reads a string behind its opening quote: its characters, in reverse and onto those read so far,
and the text behind the closing quote. The number in front counts characters that belong to an
escape already read. -/
def quotedAux (strict : Bool) : Nat → List Char → List Char → Reading (List Char)
  | _, _, [] => .error .truncated
  | skip + 1, acc, _ :: cs => quotedAux strict skip acc cs
  | 0, acc, '"' :: cs => .ok (acc.reverse, cs)
  | 0, acc, '\\' :: cs =>
    match cs with
    | [] => .error .truncated
    | 'u' :: cs =>
      match escaped strict cs with
      | .error fault => .error fault
      | .ok (c, n) => quotedAux strict n (c :: acc) cs
    | e :: cs =>
      match simpleEscape? e with
      | none => .error .malformed
      | some c => quotedAux strict 0 (c :: acc) cs
  | 0, acc, c :: cs =>
    if c.toNat < 0x20 then .error .malformed else quotedAux strict 0 (c :: acc) cs

def quoted (strict : Bool) (cs : List Char) : Reading String :=
  (quotedAux strict 0 [] cs).map fun (chars, rest) => (String.ofList chars, rest)

/-- Whether a character stands for itself in a string. -/
def isPlain (c : Char) : Bool := c != '"' && c != '\\' && 0x20 ≤ c.toNat

/-- Characters that stand for themselves are read as they are, whatever follows the closing
quote. -/
theorem quotedAux_append (strict : Bool) {cs : List Char} (h : ∀ c ∈ cs, isPlain c = true)
    (acc rest : List Char) :
    quotedAux strict 0 acc (cs ++ '"' :: rest) = .ok (acc.reverse ++ cs, rest) := by
  induction cs generalizing acc with
  | nil => simp [quotedAux]
  | cons c cs ih =>
    have hc := h c (by simp)
    simp only [isPlain, Bool.and_eq_true, bne_iff_ne, ne_eq, decide_eq_true_eq] at hc
    rw [List.cons_append, quotedAux]
    · rw [if_neg (by omega), ih (fun x hx => h x (by simp [hx]))]
      simp
    · exact fun e => hc.1.1 e
    · exact fun e => hc.1.2 e

end LinkLocal.Json
