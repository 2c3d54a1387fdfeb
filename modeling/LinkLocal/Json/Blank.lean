import LinkLocal.Json.Fault

/-!
The blanks between the tokens of a JSON text, and the three literal words.
-/
namespace LinkLocal.Json

/-- Whether a character may stand between tokens: space, tab, line feed or carriage return. -/
def isBlank (c : Char) : Bool := c == ' ' || c == '\t' || c == '\n' || c == '\r'

def skipBlanks (cs : List Char) : List Char := cs.dropWhile isBlank

def readWord : List Char → List Char → Reading Unit
  | [], cs => .ok ((), cs)
  | _ :: _, [] => .error .truncated
  | w :: word, c :: cs => if c = w then readWord word cs else .error .malformed

def readMark (mark : Char) (cs : List Char) : Reading Unit :=
  match skipBlanks cs with
  | [] => .error .truncated
  | c :: cs => if c = mark then .ok ((), cs) else .error .malformed

end LinkLocal.Json
