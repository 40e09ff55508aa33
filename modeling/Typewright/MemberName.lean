import Typewright.Schema.Basic
import Typewright.Text.Words

/-!
# Names of members

Fields and attributes become members in snake case. The generated language refuses some words as names: most of its
keywords can be marked as raw names when they are written, but the four path keywords cannot, and get an underscore
here. A setter must not hide the two methods that every builder has.
-/

namespace Typewright

/-- Words that can only be names in their raw form. -/
def keywords : List String :=
  ["abstract", "as", "async", "await", "become", "box", "break", "const", "continue", "do", "dyn", "else", "enum",
    "extern", "false", "final", "fn", "for", "gen", "if", "impl", "in", "let", "loop", "macro", "match", "mod", "move",
    "mut", "override", "priv", "pub", "ref", "return", "static", "struct", "trait", "true", "try", "type", "typeof",
    "unsafe", "unsized", "use", "virtual", "where", "while", "yield"]

/-- Words that can never be names. -/
def pathKeywords : List String := ["self", "Self", "super", "crate"]

/-- Methods of every builder. -/
def builderMethods : List String := ["new", "build"]

def isKeyword (name : String) : Bool := keywords.contains name

def isPathKeyword (name : String) : Bool := pathKeywords.contains name

/-- The snake case of a name without its dots. -/
def snakeName (name : String) : String := String.ofList (Text.snakeCase (name.toList.filter (· != '.')))

/-- The member of a field or an attribute. -/
def memberName (name : String) : String :=
  if isPathKeyword (snakeName name) then snakeName name ++ "_" else snakeName name

/-- The first setter of a member. -/
def setterName (member : String) : String :=
  if builderMethods.contains member then member ++ "_" else member

/-- Required fields come before the others; fields that are alike in this are ordered by name. -/
def requiredFirst (a b : String × Field) : Bool :=
  if a.2.required == b.2.required then a.1 ≤ b.1 else a.2.required

end Typewright
