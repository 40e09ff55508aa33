import Typewright.Emission.Functions
import Typewright.Source.Bodies
import Typewright.Source.Item

/-!
# What an artifact declares

An artifact declares its data type, the methods of it, for a resource also its role in templates, then its builder
with the setters, and at last its helper. The struct of the builder has the same fields as the data type, but they
are not visible from outside and have no documentation of their own.
-/

namespace Typewright.Source

/-- The documentation of a thing that a schema declares, with a link if it gives one. -/
def documented (summary : String) (link : Option String) : List Attribute :=
  .doc summary :: match link with
    | some url => [.doc "", .doc (" <" ++ url ++ ">")]
    | none => []

def typeDocs (a : Artifact) : List Attribute :=
  documented (" `" ++ a.typeName ++ "` " ++ (if a.isResource then "resource" else "property type") ++ ".")
    a.documentation

def fieldDocs (m : Typewright.Member) : List Attribute := documented (" `" ++ m.fieldName ++ "` field.") m.documentation

/-- The type of a struct field. -/
def memberType (m : Typewright.Member) (type : Code) : Code :=
  let held := if m.boxed then boxOf type else type
  if m.required then held else optionOf held

def memberField (scope : Scope) (isPublic : Bool) (m : Typewright.Member) : Except RenderError StructField := do
  let name ← identifier m.name
  let type ← typeCode scope m.type
  return ⟨if isPublic then fieldDocs m else [], isPublic, name, memberType m type⟩

/-- The fields of a data type or, not public, of its builder. -/
def structFields (scope : Scope) (data : DataType) (isPublic : Bool) : Except RenderError (List StructField) := do
  let fields ← data.members.mapM (memberField scope isPublic)
  return Emission.withIdentity data.resourceType.isSome
    ⟨[.doc " Logical name in the template."], isPublic, Emission.logicalName, stringCode⟩ fields
    ⟨[.doc " Logical names this resource depends on."], isPublic, Emission.dependsOn, dependenciesCode⟩

/-- How many parameters a function may have without a remark. -/
def usualParameters : Nat := 7

/-- A generated function. The receiver, if there is one, stands before the parameters. -/
def functionOf (scope : Scope) (attributes : List Attribute) (summary : String) (receiver : List Code) (result : Code)
    (c : Callable) : Except RenderError Function := do
  let name ← identifier c.name
  let params ← c.params.mapM (paramCode scope)
  let body ← functionBody scope c.body
  return {
    attributes := attributes ++ .doc (" " ++ summary) ::
      (if usualParameters < c.params.length then [.manyArguments] else [])
    isPublic := true
    name
    inputs := receiver ++ params
    result
    body }

/-- A method that refers to an attribute. -/
def accessorMethod (scope : Scope) (a : Accessor) : Except RenderError Function := do
  let name ← identifier a.name
  let body ← functionBody scope a.body
  return {
    attributes := [.doc (" Deferred reference to the `" ++ a.attributeName ++ "` attribute."), .mustUse]
    isPublic := true
    name
    inputs := [tokens "& self"]
    result := valueOf scope stringCode
    body }

/-- A method that the runtime library asks for. -/
def roleMethod (name : String) (result body : Code) : Function where
  attributes := []
  isPublic := false
  name
  inputs := [tokens "& self"]
  result
  body

/-- The role of a resource in templates. -/
def resourceRole (scope : Scope) (name typeName : String) : List Item :=
  [.implementation {
      interface := none
      target := name
      members := [.constant [.doc " Resource type name used in templates."] "RESOURCE_TYPE" (tokens "& 'static str")
        (word (Text.literal typeName))] },
    .implementation {
      interface := some (scope.runtimeItem "Resource")
      target := name
      members := [
        .function (roleMethod "logical_name" (tokens "& str") (tokens "& self . logical_name")),
        .function (roleMethod "resource_type" (tokens "& 'static str") (tokens "Self :: RESOURCE_TYPE")),
        .function (roleMethod "depends_on" (optionOf (word "&" ++ squares stringCode))
          (method (tokens "self . depends_on") "as_deref" []))] }]

/-- The data type and its methods. -/
def dataItems (scope : Scope) (a : Artifact) : Except RenderError (List Item) := do
  let name ← identifier a.data.name
  let builder ← identifier a.builder.name
  let fields ← structFields scope a.data true
  let constructor ← functionOf scope [.mustUse] "Creates a value from every member." [] (word "Self") a.data.constructor
  let factory ← functionOf scope [.mustUse] "Starts a builder with the required values set." [] (word builder) a.factory
  let accessors ← a.data.accessors.mapM (accessorMethod scope)
  return [
    .struct ⟨typeDocs a ++ [.derive ["Debug", "Clone", "PartialEq"]], name, fields⟩,
    .implementation ⟨none, name, (constructor :: factory :: accessors).map .function⟩] ++
      match a.data.resourceType with
      | some typeName => resourceRole scope name typeName
      | none => []

def setterSummary (s : Setter) : String :=
  match s.kind with
  | .direct => "Sets `" ++ s.member ++ "`."
  | .wrapping => "Sets `" ++ s.member ++ "` from raw values."
  | .nested => "Creates and sets `" ++ s.member ++ "`."

/-- A setter, which takes its receiver as changeable if it overwrites a member itself. -/
def setterMethod (scope : Scope) (s : Setter) : Except RenderError Function :=
  functionOf scope [] (setterSummary s) [if s.callable.body.isAssign then tokens "mut self" else word "self"]
    (word "Self") s.callable

/-- The builder and its methods. -/
def builderItems (scope : Scope) (a : Artifact) : Except RenderError (List Item) := do
  let name ← identifier a.builder.name
  let data ← identifier a.data.name
  let fields ← structFields scope a.data false
  let constructor ← functionOf scope [] "Creates a builder with the required values set." [] (word "Self")
    a.builder.constructor
  let setters ← a.builder.setters.mapM (setterMethod scope)
  let build ← functionOf scope [.mustUse] "Builds the value." [word "self"] (word data) a.builder.build
  return [
    .struct ⟨[.doc (" Builder for [`" ++ a.data.name ++ "`]."), .derive ["Debug", "Clone"], .mustUse], name, fields⟩,
    .implementation ⟨none, name, (constructor :: setters ++ [build]).map .function⟩]

/-- The helper. One that registers what it makes may fail. -/
def helperItem (scope : Scope) (a : Artifact) : Except RenderError Item := do
  let data ← identifier a.data.name
  let helper ←
    if a.helper.body.isRegister then
      functionOf scope [] ("Builds a `" ++ a.typeName ++ "` and registers it with the template.") []
        (scope.runtimeItem "Result" ++ word "<" ++ word data ++ word ">") a.helper
    else functionOf scope [.mustUse] ("Builds a `" ++ a.typeName ++ "`.") [] (word data) a.helper
  return .function helper

/-- Every item of an artifact. -/
def declarations (scope : Scope) (a : Artifact) : Except RenderError (List Item) := do
  let data ← dataItems scope a
  let builder ← builderItems scope a
  let helper ← helperItem scope a
  return data ++ builder ++ [helper]

end Typewright.Source
