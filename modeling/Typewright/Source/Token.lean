import Typewright.Source.Lexeme
import Typewright.Text.Split

/-!
# Tokens and their spacing

Generated source is a tree of tokens: words, which are names, literals and signs as they are written, and groups in
brackets. `Code.chars` writes tokens with one blank between any two; braces have blanks inside, the other brackets
have none. A sign of several characters is one word. `Code.text` gives the same characters as a text
(`Code.toList_text`) and writes them from left to right, however deep the groups are.
-/

namespace Typewright.Source

inductive Token where
  | word (text : String)
  | group (delimiter : Delimiter) (inner : List Token)

abbrev Code := List Token

mutual

def Token.chars : Token → List Char
  | .word text => text.toList
  | .group .parentheses inner => '(' :: Code.chars inner ++ [')']
  | .group .brackets inner => '[' :: Code.chars inner ++ [']']
  | .group .braces [] => ['\x7b', ' ', '\x7d']
  | .group .braces (t :: inner) => '\x7b' :: ' ' :: Code.chars (t :: inner) ++ [' ', '\x7d']

def Code.chars : List Token → List Char
  | [] => []
  | [t] => t.chars
  | t :: u :: rest => t.chars ++ ' ' :: Code.chars (u :: rest)

end

mutual

/-- A text with a token at its end. -/
def Token.onto (text : String) : Token → String
  | .word w => text ++ w
  | .group .parentheses inner => (Code.onto (text.push '(') inner).push ')'
  | .group .brackets inner => (Code.onto (text.push '[') inner).push ']'
  | .group .braces [] => ((text.push '\x7b').push ' ').push '\x7d'
  | .group .braces (t :: inner) => ((Code.onto ((text.push '\x7b').push ' ') (t :: inner)).push ' ').push '\x7d'

/-- A text with tokens at its end. -/
def Code.onto (text : String) : List Token → String
  | [] => text
  | [t] => t.onto text
  | t :: u :: rest => Code.onto ((t.onto text).push ' ') (u :: rest)

end

def Code.text (code : Code) : String := Code.onto "" code

mutual

theorem Token.toList_onto (text : String) : ∀ t : Token, (t.onto text).toList = text.toList ++ t.chars
  | .word w => by simp [Token.onto, Token.chars]
  | .group .parentheses inner => by simp [Token.onto, Token.chars, Code.toList_onto _ inner]
  | .group .brackets inner => by simp [Token.onto, Token.chars, Code.toList_onto _ inner]
  | .group .braces [] => by simp [Token.onto, Token.chars]
  | .group .braces (t :: inner) => by simp [Token.onto, Token.chars, Code.toList_onto _ (t :: inner)]

theorem Code.toList_onto (text : String) :
    ∀ code : List Token, (Code.onto text code).toList = text.toList ++ Code.chars code
  | [] => by simp [Code.onto, Code.chars]
  | [t] => by simp [Code.onto, Code.chars, Token.toList_onto _ t]
  | t :: u :: rest => by simp [Code.onto, Code.chars, Token.toList_onto _ t, Code.toList_onto _ (u :: rest)]

end

theorem Code.toList_text (code : Code) : (Code.text code).toList = Code.chars code := by
  simp [Code.text, Code.toList_onto]

/-- Words that are given with single blanks between them. -/
def tokens (words : String) : Code :=
  (Text.splitWhere (· == ' ') words.toList).map fun word => .word (String.ofList word)

def word (text : String) : Code := [.word text]

def parens (inner : Code) : Code := [.group .parentheses inner]

def squares (inner : Code) : Code := [.group .brackets inner]

def braces (inner : Code) : Code := [.group .braces inner]

/-- Pieces with commas between them. -/
def commas (pieces : List Code) : Code := List.intercalate (word ",") pieces

end Typewright.Source
