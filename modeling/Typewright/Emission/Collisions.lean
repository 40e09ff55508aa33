import Std.Data.TreeMap.Lemmas
import Typewright.Artifact
import Typewright.Emission.Error
import Typewright.Emission.Functions

/-!
# Names that are claimed twice

Data types, builders and modules share one space of names, helper functions have another. Modules are claimed first,
by every type below them and without dispute; then every type claims its data type, its builder and its helper. Within
a type the struct fields, the methods of the data type and the methods of the builder are three spaces. A name that
is claimed again is reported with the first claim.
-/

namespace Typewright.Emission

/-- A path as it is written in claims. -/
def pathText (path : List String) : String := "::".intercalate path

/-- The modules that lead from the module `place` through `namespaces`, as they are written. -/
def modulesBelow (place : String) : List String → List String
  | [] => []
  | name :: rest => (place ++ "::" ++ name) :: modulesBelow (place ++ "::" ++ name) rest

/-- Paths, each with the type that claimed it first. -/
abbrev Claims := Std.TreeMap String String

/-- A claim that gives way to an earlier one. -/
def Claims.note (claims : Claims) (path typeName : String) : Claims := claims.insertIfNew path typeName

/-- A claim that must be the first. -/
def Claims.claim (claims : Claims) (path typeName : String) : Except EmitError Claims :=
  match claims[path]? with
  | some first => .error (.artifactCollision first typeName path)
  | none => .ok (claims.insert path typeName)

/-- What has been claimed in the two spaces of names. -/
structure Claimed where
  items : Claims
  helpers : Claims

/-- The claims of one type. -/
def Claimed.add (claimed : Claimed) (t : String × Placement) : Except EmitError Claimed := do
  let place := pathText t.2.modulePath
  let items ← claimed.items.claim (place ++ "::" ++ t.2.className) t.1
  let items ← items.claim (place ++ "::" ++ t.2.builderName) t.1
  let helpers ← claimed.helpers.claim (place ++ "::" ++ t.2.helperName) t.1
  return ⟨items, helpers⟩

/-- The modules that types need. -/
def moduleClaims (types : List (String × Placement)) : Claims :=
  types.foldl (fun claims t =>
    (modulesBelow t.2.root t.2.namespaces).foldl (fun claims path => claims.note path t.1) claims) ∅

/-- Every type with its placement. -/
def placements (schema : Schema) (config : Config) : List (String × Placement) :=
  schema.toList.map fun e => (e.1.name, Placement.ofType e.1 config)

/-- Refuses a schema two types of which generate one item or one helper. -/
def checkItems (schema : Schema) (config : Config) : Except EmitError Unit := do
  let types := placements schema config
  let _ ← types.foldlM Claimed.add ⟨moduleClaims types, ∅⟩
  return ()

/-- Names within a type, each with what it comes from. -/
abbrev Origins := SortedMap String

/-- A name and its origin added, if the name is new. -/
def Origins.claim (typeName : String) (origins : Origins) (claim : String × String) : Except EmitError Origins :=
  match origins.find? claim.1 with
  | some first => .error (.memberCollision typeName first claim.2 claim.1)
  | none => .ok (origins.insert claim.1 claim.2)

/-- Refuses `claims` if a name of them is among `fixed` or occurs twice. -/
def checkNames (typeName : String) (fixed : List String) (claims : List (String × String)) : Except EmitError Unit := do
  let _ ← claims.foldlM (Origins.claim typeName) (SortedMap.ofList (fixed.map fun name => (name, name)))
  return ()

/-- The field that a setter comes from. -/
def originOf (data : DataType) (member : String) : String :=
  match data.member? member with
  | some m => m.fieldName
  | none => member

/-- Refuses a type two struct fields, methods or builder methods of which have one name. -/
def checkArtifact (a : Artifact) : Except EmitError Unit := do
  checkNames a.typeName (if a.isResource then [logicalName, dependsOn] else [])
    (a.data.members.map fun m => (m.name, m.fieldName))
  checkNames a.typeName [a.data.constructor.name, a.factory.name]
    (a.data.accessors.map fun acc => (acc.name, acc.attributeName))
  checkNames a.typeName [a.builder.constructor.name, a.builder.build.name]
    (a.builder.setters.map fun s => (s.callable.name, originOf a.data s.member))

end Typewright.Emission
