import Typewright.Text.Rest
import Typewright.Text.WhiteSpace

/-!
# Blanks of the generated language

Between the lexemes of a text stand white space, the two direction marks and comments. A line comment reaches to the
end of its line, a block comment to its own closing mark, with others nested in it. Comments that document something
are no blanks, and neither is a block comment that is never closed.
-/

namespace Typewright.Source

open Text

def isBlank (c : Char) : Bool := isWhiteSpace c || c == '\u200e' || c == '\u200f'

/-- What follows the line that a text starts in; the line feed is left. -/
def afterLine (cs : List Char) : Rest cs := .dropWhile (· ≠ '\n') cs

/-- What follows a block comment whose opening mark has been read, inside of which `depth` others are open. -/
def afterBlock : Nat → (cs : List Char) → Option (Rest cs)
  | _, [] => none
  | _, [_] => none
  | depth, '/' :: '*' :: cs => (afterBlock (depth + 1) cs).map fun r => (r.behind _).behind _
  | 0, '*' :: '/' :: cs => some (((Rest.whole cs).behind _).behind _)
  | depth + 1, '*' :: '/' :: cs => (afterBlock depth cs).map fun r => (r.behind _).behind _
  | depth, c :: cs => (afterBlock depth cs).map (.behind c)

/-- What follows the mark of a comment and the comment, where `c` starts a comment that documents nothing. -/
def afterComment (c : Char) (cs : List Char) : Option (Rest cs) :=
  match c, cs with
  | '/', '/' :: '!' :: _ => none
  | '/', '/' :: '/' :: '/' :: cs => some ((((afterLine cs).behind _).behind _).behind _)
  | '/', '/' :: '/' :: _ => none
  | '/', '/' :: cs => some ((afterLine cs).behind _)
  | '/', '*' :: '*' :: '/' :: cs => some ((((Rest.whole cs).behind _).behind _).behind _)
  | '/', '*' :: '!' :: _ => none
  | '/', '*' :: '*' :: '*' :: cs => (afterBlock 0 ('*' :: '*' :: cs)).map (.behind _)
  | '/', '*' :: '*' :: _ => none
  | '/', '*' :: cs => (afterBlock 0 cs).map (.behind _)
  | _, _ => none

/-- A text without the blanks at its start. -/
def skipBlank (cs : List Char) : List Char :=
  match cs with
  | [] => []
  | c :: cs =>
    if isBlank c then skipBlank cs
    else
      match afterComment c cs with
      | some ⟨rest, _⟩ => skipBlank rest
      | none => c :: cs
termination_by cs.length
decreasing_by all_goals simp; try omega

theorem length_skipBlank_le (cs : List Char) : (skipBlank cs).length ≤ cs.length := by
  fun_induction skipBlank cs with
  | case1 => simp
  | case2 c cs _ ih => simp; omega
  | case3 c cs _ rest h _ ih => simp; omega
  | case4 c cs _ _ => simp

end Typewright.Source
