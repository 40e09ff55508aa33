import Typewright.Artifact
import Typewright.Emission.FreeName

/-!
# Functions of a type

The constructors of a data type and its builder, the factory, the build method, the attribute accessors and the
helper. They share one order of members: a resource has its logical name before them and its dependencies behind
them. Optional members start absent, boxed ones are moved to the heap where they come in.
-/

namespace Typewright.Emission

/-- The member of a resource that holds its name in the template. -/
def logicalName : String := "logical_name"

/-- The member of a resource that holds the names it depends on. -/
def dependsOn : String := "depends_on"

/-- The function that starts a builder. -/
def factoryName : String := "create"

def constructorName : String := "new"

def buildName : String := "build"

/-- `inner`, with what stands before and behind it for a resource. -/
def withIdentity {α : Type} (resource : Bool) (before : α) (inner : List α) (behind : α) : List α :=
  if resource then before :: inner ++ [behind] else inner

def requiredMembers (members : List Member) : List Member := members.filter (·.required)

def valueParam (m : Member) : Param := ⟨m.name, .value m.type⟩

/-- The parameters by which a builder is started. -/
def requiredParams (members : List Member) (resource : Bool) : List Param :=
  withIdentity resource ⟨logicalName, .logicalName⟩ ((requiredMembers members).map valueParam)
    ⟨dependsOn, .dependencies⟩

/-- The parameters of a list, passed on. -/
def paramBodies (params : List Param) : List Body := params.map fun p => .param p.name

/-- A value of a member as it is kept. -/
def boxedIf (m : Member) (value : Body) : Body := if m.boxed then .boxed value else value

/-- Every struct field with its value, in the order of declaration. -/
def fieldsWith (members : List Member) (resource : Bool) (identity : String → Body) (value : Member → Body) :
    List (String × Body) :=
  withIdentity resource (logicalName, identity logicalName) (members.map fun m => (m.name, value m))
    (dependsOn, identity dependsOn)

/-- Makes a value from every member. -/
def dataConstructor (typeName : String) (members : List Member) (resource : Bool) : Callable where
  name := constructorName
  params := withIdentity resource ⟨logicalName, .logicalName⟩
    (members.map fun m => ⟨m.name, if m.required then .value m.type else .optional m.type⟩)
    ⟨dependsOn, .dependencies⟩
  body := .construct typeName (fieldsWith members resource .param fun m =>
    if m.boxed && !m.required then .boxedOptional (.param m.name) else boxedIf m (.param m.name))

/-- Makes a builder that holds the required members. -/
def builderConstructor (typeName : String) (members : List Member) (resource : Bool) : Callable where
  name := constructorName
  params := requiredParams members resource
  body := .constructBuilder typeName (fieldsWith members resource .param fun m =>
    if m.required then boxedIf m (.param m.name) else .absent)

/-- Makes the value that a builder holds. -/
def buildMethod (typeName : String) (members : List Member) (resource : Bool) : Callable where
  name := buildName
  params := []
  body := .construct typeName (fieldsWith members resource .held fun m => .held m.name)

/-- Starts a builder, as its constructor does. -/
def factory (typeName : String) (members : List Member) (resource : Bool) : Callable where
  name := factoryName
  params := requiredParams members resource
  body := .newBuilder typeName (paramBodies (requiredParams members resource))

def accessors (spec : TypeSpec) : List Accessor :=
  spec.attributes.keys.map fun name =>
    { name := memberName name, attributeName := name, body := .attributeRef name }

/-- A value of `typeName` made by its factory, a configuration step and the build method. -/
def builtBy (typeName : String) (args : List Body) (step : String) : Body :=
  .invokeBuild (.applyConfigure step (.invokeFactory typeName args))

/-- The name of the configuration step beside `params`. -/
def configureName (params : List Param) : String := freeName "configure" (params.map (·.name))

/-- The name of the context beside `params`. -/
def contextName (params : List Param) : String := freeName "ctx" (params.map (·.name))

/-- Makes a value of a property type from its required members and a configuration step. -/
def propertyHelper (typeName : String) (p : Placement) (members : List Member) : Callable :=
  let params := requiredParams members false
  let step := configureName params
  { name := p.helperName
    params := params ++ [⟨step, .configure typeName⟩]
    body := builtBy typeName (paramBodies params) step }

/-- Makes a resource and registers it. Without a logical name the context allocates one for the class, without
    dependencies it supplies those at hand. -/
def resourceHelper (typeName : String) (p : Placement) (members : List Member) : Callable :=
  let required := requiredParams members false
  let context := contextName required
  let params := ⟨context, .context⟩ :: required ++
    [⟨logicalName, .optionalLogicalName⟩, ⟨dependsOn, .dependencies⟩]
  let step := configureName params
  let args := .logicalNameOr (.param logicalName) context p.className :: paramBodies required ++
    [.dependenciesOr (.param dependsOn) context]
  { name := p.helperName
    params := params ++ [⟨step, .configure typeName⟩]
    body := .register context (builtBy typeName args step) }

end Typewright.Emission
