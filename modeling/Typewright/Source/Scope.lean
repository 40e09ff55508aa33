import Typewright.Artifact
import Typewright.Source.Identifier
import Typewright.Source.RuntimePath
import Typewright.Source.Token

/-!
# Paths between generated items

An item of the same module is named as it is. To reach any other item, a path leaves the module it starts from level
by level up to the common root, and then descends to the module of the item.
-/

namespace Typewright.Source

/-- The artifact that a type name means: a property type hides a resource type, and a later artifact hides an earlier
    one of the same section. -/
def denoted? (bundle : Bundle) (typeName : String) : Option Artifact :=
  (bundle.properties.reverse ++ bundle.resources.reverse).find? (·.typeName == typeName)

/-- A path from one module to an item. -/
structure ItemPath where
  /-- How many modules are left. -/
  ascent : Nat
  /-- The modules that are entered. -/
  descent : List String
  item : String
  deriving DecidableEq, Repr

def ItemPath.code (p : ItemPath) : Code :=
  (List.replicate p.ascent (tokens "super ::")).flatten ++ p.descent.flatMap (fun name => word name ++ word "::") ++
    word p.item

/-- Where code is being written. -/
structure Scope where
  /-- The module, from the root on. -/
  path : List String
  bundle : Bundle
  runtime : RuntimePath

namespace Scope

def artifact (scope : Scope) (typeName : String) : Except RenderError Artifact :=
  match denoted? scope.bundle typeName with
  | some a => .ok a
  | none => .error (.unknownType typeName)

/-- The path to the item `name` beside the data type of an artifact. -/
def pathTo (scope : Scope) (a : Artifact) (name : String) : Except RenderError ItemPath := do
  let item ← identifier name
  if a.placement.modulePath = scope.path then
    return ⟨0, [], item⟩
  else
    return ⟨scope.path.length, ← a.placement.modulePath.mapM identifier, item⟩

/-- The path to a data type. -/
def dataPath (scope : Scope) (typeName : String) : Except RenderError ItemPath := do
  let a ← scope.artifact typeName
  scope.pathTo a a.placement.className

/-- The path to a builder. -/
def builderPath (scope : Scope) (typeName : String) : Except RenderError ItemPath := do
  let a ← scope.artifact typeName
  scope.pathTo a a.placement.builderName

/-- An item of the runtime library. -/
def runtimeItem (scope : Scope) (name : String) : Code :=
  (if scope.runtime.rooted then word "::" else []) ++
    scope.runtime.segments.flatMap (fun segment => word segment ++ word "::") ++ word name

end Scope

end Typewright.Source
