import Typewright.Source.Lexeme

/-!
# The path of the runtime library

The path is written in the settings as names joined by `::`, with another `::` before the first one if it starts at
the root of all libraries. Words that stand for a place in the module tree are allowed anywhere in it, other reserved
words are not. A path ends before a `::` that a parenthesis follows, and nothing may be left behind it.

Only names are read. A path with arguments in angle brackets (`a::<b>`), which the generated language would take as
well, counts as malformed here, so what is shown of written files does not speak of such settings.
-/

namespace Typewright.Source

structure RuntimePath where
  rooted : Bool
  segments : List String
  deriving DecidableEq, Repr

namespace RuntimePath

/-- Whether a word may be a segment of a path. -/
def isSegment (word : String) : Bool := !isReserved word || isPathKeyword word || word == "try"

/-- The names of a path, from the first one on; an angle bracket is refused where a name is due, and as left over behind
    one. -/
def segmentsOf : List Lexeme → Except PathFault (List String)
  | [] => .error .ends
  | .name word :: rest =>
    if isSegment word then
      match rest with
      | [] => .ok [word]
      | .sign ':' true :: .sign ':' _ :: .opening .parentheses :: _ => .error .leftOver
      | .sign ':' true :: .sign ':' _ :: rest => (segmentsOf rest).map (word :: ·)
      | _ => .error .leftOver
    else .error (.keyword word)
  | _ => .error .notName

def ofLexemes : List Lexeme → Except PathFault RuntimePath
  | .sign ':' true :: .sign ':' _ :: rest => (segmentsOf rest).map fun segments => ⟨true, segments⟩
  | lexemes => (segmentsOf lexemes).map fun segments => ⟨false, segments⟩

/-- The path that a text of the settings writes. -/
def ofText (text : String) : Except RenderError RuntimePath :=
  match lexemes? text with
  | none => .error (.runtimePath text .notLexemes)
  | some lexemes => (ofLexemes lexemes).mapError (.runtimePath text)

end RuntimePath

end Typewright.Source
