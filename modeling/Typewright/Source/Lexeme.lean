import Typewright.Source.Literal

/-!
# Lexemes of the generated language

`lexemes?` cuts a text into names, signs, literals and brackets, and refuses a text with anything else in it or with
brackets that do not match. It serves to read the path of the runtime library, so a literal keeps nothing of itself,
and neither does a comment that documents something.
-/

namespace Typewright.Source

open Text

inductive Delimiter where
  | parentheses
  | brackets
  | braces
  deriving DecidableEq, Repr

inductive Lexeme where
  | name (text : String)
  /-- A sign, and whether the next one follows it directly. -/
  | sign (c : Char) (joined : Bool)
  | literal
  | opening (d : Delimiter)
  | closing (d : Delimiter)
  /-- A comment that documents something. -/
  | note
  deriving DecidableEq, Repr

def signs : List Char := "~!@#$%^&*-=+|;:,<.>/?'".toList

/-- Whether a sign stands at the start of a text, and no comment. -/
def startsWithSign : List Char → Bool
  | '/' :: '/' :: _ | '/' :: '*' :: _ => false
  | c :: _ => signs.contains c
  | [] => false

/-- Whether a carriage return stands alone in a text. -/
def hasBareReturn : List Char → Bool
  | [] => false
  | '\r' :: '\n' :: cs => hasBareReturn cs
  | c :: cs => c == '\r' || hasBareReturn cs

/-- A documenting comment up to the end of its line. -/
def lineNote (cs : List Char) : Option (Rest cs) :=
  let rest := afterLine cs
  if hasBareReturn (cs.takeWhile (· ≠ '\n') ++ rest.1.take 1) then none else some rest

/-- A documenting comment up to its closing mark. -/
def blockNote (cs : List Char) : Option (Rest cs) :=
  (afterBlock 0 cs).bind fun rest =>
    if hasBareReturn (cs.take (cs.length - rest.1.length)) then none else some rest

/-- A comment, of which the first stroke has been read, that documents something. -/
def note : (cs : List Char) → Option (Rest cs)
  | '/' :: '!' :: cs | '/' :: '/' :: cs => (lineNote cs).map fun r => (r.behind _).behind _
  | '*' :: '!' :: cs | '*' :: '*' :: cs => (blockNote cs).map fun r => (r.behind _).behind _
  | _ => none

/-- What a quote that starts no literal may mark: a name that no quote follows. -/
def marksName (cs : List Char) : Bool :=
  match cs with
  | [] => false
  | c :: cs =>
    match name? c cs with
    | some (name, ⟨'#' :: _, _⟩) => name.take 2 == ['r', '#']
    | some (_, ⟨'\'' :: _, _⟩) => false
    | some _ => true
    | none => false

/-- Letters that start a literal or nothing, so that no name begins in this way. -/
def literalMarks : List (List Char) :=
  ["r\"", "r#\"", "r##", "b\"", "b'", "br\"", "br#", "c\"", "cr\"", "cr#"].map String.toList

/-- The mark that stands for a literal which a tool could not read, behind its parenthesis. -/
def lostLiteral : List Char := "/*ERROR*/)".toList

/-- What starts with an opening parenthesis, of which `cs` is the rest. -/
def parenthesis (cs : List Char) : Lexeme × Rest cs :=
  if lostLiteral.isPrefixOf cs then (.literal, .drop lostLiteral.length cs) else (.opening .parentheses, .whole cs)

/-- The lexeme that starts with `c`. -/
def lexeme? (c : Char) (cs : List Char) : Option (Lexeme × Rest cs) :=
  match c, cs with
  | '(', cs => some (parenthesis cs)
  | '[', cs => some (.opening .brackets, .whole cs)
  | '\x7b', cs => some (.opening .braces, .whole cs)
  | ')', cs => some (.closing .parentheses, .whole cs)
  | ']', cs => some (.closing .brackets, .whole cs)
  | '\x7d', cs => some (.closing .braces, .whole cs)
  | '/', '/' :: cs => (note ('/' :: cs)).map (.note, ·)
  | '/', '*' :: cs => (note ('*' :: cs)).map (.note, ·)
  | c, cs =>
    match literal c cs with
    | some rest => some (.literal, rest)
    | none =>
      if c = '\'' then if marksName cs then some (.sign c true, .whole cs) else none
      else if signs.contains c then some (.sign c (startsWithSign cs), .whole cs)
      else if literalMarks.any (·.isPrefixOf (c :: cs)) then none
      else (name? c cs).map fun (name, rest) => (.name (String.ofList name), rest)

/-- All lexemes of a text, whether brackets match or not. -/
def cut (cs : List Char) : Option (List Lexeme) :=
  match _h : skipBlank cs with
  | [] => some []
  | c :: rest =>
    match lexeme? c rest with
    | some (lexeme, ⟨left, _⟩) => (cut left).map (lexeme :: ·)
    | none => none
termination_by cs.length
decreasing_by
  have := length_skipBlank_le cs
  rw [_h, List.length_cons] at this
  omega

/-- Whether brackets match, with those of `pending` open, the last one first. -/
def balanced : List Delimiter → List Lexeme → Bool
  | pending, [] => pending.isEmpty
  | pending, .opening d :: rest => balanced (d :: pending) rest
  | d :: pending, .closing d' :: rest => d == d' && balanced pending rest
  | [], .closing _ :: _ => false
  | pending, _ :: rest => balanced pending rest

def lexemes? (text : String) : Option (List Lexeme) :=
  (cut (withoutMark text.toList)).filter (balanced [])

end Typewright.Source
