import Typewright.MemberName
import Typewright.Source.Blank
import Typewright.Source.Error
import Typewright.Text.WordChar

/-!
# Identifiers

A name becomes an identifier of the generated language. A keyword is written in its raw form, behind the mark `r#`,
but for the four path keywords, which have none. Any other name is read as a text that must hold one identifier and
nothing else but blanks; so `identifier` also takes a raw form, and refuses a keyword with a blank beside it.
-/

namespace Typewright.Source

open Text

/-- The word that starts with `c`, and what follows it. -/
def word? (c : Char) (cs : List Char) : Option (List Char × Rest cs) :=
  if isIdentifierStart c then
    some (c :: cs.takeWhile isIdentifierContinue, .dropWhile isIdentifierContinue cs)
  else none

/-- A word that has no raw form. -/
def hasNoRawForm (word : List Char) : Bool := word == ['_'] || isPathKeyword (String.ofList word)

/-- The word, or the raw form of one, that starts with `c`, and what follows it. -/
def name? (c : Char) (cs : List Char) : Option (List Char × Rest cs) :=
  match c, cs with
  | 'r', ['#'] => none
  | 'r', '#' :: c :: cs =>
    match word? c cs with
    | some (word, rest) =>
      if hasNoRawForm word then none else some ('r' :: '#' :: word, (rest.behind c).behind '#')
    | none => none
  | c, cs => word? c cs

/-- Words that are no identifiers as they stand. The keyword `gen` is one: it is reserved in later editions of the
    language only. -/
def isReserved (name : String) : Bool :=
  name == "_" || (isKeyword name && name != "gen") || isPathKeyword name

/-- A text without the mark that some editors put at its start. -/
def withoutMark : List Char → List Char
  | '\ufeff' :: cs => cs
  | cs => cs

/-- The name that stands alone in a text. -/
def soleName? (cs : List Char) : Option String :=
  match skipBlank (withoutMark cs) with
  | [] => none
  | c :: cs =>
    match name? c cs with
    | some (name, ⟨rest, _⟩) => if (skipBlank rest).isEmpty then some (String.ofList name) else none
    | none => none

/-- The identifier that a name is written as. -/
def identifier (name : String) : Except RenderError String :=
  if isPathKeyword name then .error (.invalidIdentifier name)
  else if isKeyword name then .ok ("r#" ++ name)
  else
    match soleName? name.toList with
    | some word => if isReserved word then .error (.invalidIdentifier name) else .ok word
    | none => .error (.invalidIdentifier name)

end Typewright.Source
