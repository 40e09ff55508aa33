import Typewright.Fresh
import Typewright.SortedMap
import Typewright.Value

/-!
# Templates

A template collects resources under logical names. No two of them have one name, and none has an empty one. The names
that are taken are kept as a set beside the list of resources, so that both can be asked. For a resource that comes
without a name the template allocates one: the name of its type, and from the second one on that name with a number
behind it. A number that has been given out for a type is not given out again.
-/

namespace Typewright

structure Resource where
  logicalName : String
  resourceType : String
  dependsOn : Option (List String)
  deriving DecidableEq, Repr

namespace Resource

/-- A reference to the resource. -/
def reference (r : Resource) : Value String := .reference r.logicalName

/-- A reference to one of its attributes. -/
def attributeOf (r : Resource) (name : String) : Value String := .attributeOf r.logicalName name

end Resource

inductive TemplateError where
  | duplicateName (logicalName existingType : String)
  | emptyName (resourceType : String)
  deriving DecidableEq, Repr

def TemplateError.message : TemplateError → String
  | .duplicateName logicalName existingType =>
    "logical name '" ++ logicalName ++ "' already registered for " ++ existingType
  | .emptyName resourceType => "empty logical name for resource type " ++ resourceType

structure Template where
  /-- In the order in which they were registered. -/
  resources : List Resource
  /-- The logical names that are taken. -/
  names : SortedMap Unit
  /-- The number that was given out last, for every type that a name has been allocated for. -/
  counters : SortedMap Nat
  /-- What resources depend on that do not say it themselves. -/
  dependee : Option (List String)

namespace Template

def empty : Template := ⟨[], .empty, .empty, none⟩

def size (t : Template) : Nat := t.resources.length

def isEmpty (t : Template) : Bool := t.resources.isEmpty

/-- Whether a resource of that logical name is registered. -/
def contains (t : Template) (name : String) : Bool := t.names.contains name

def setDependee (t : Template) (dependee : Option (List String)) : Template := { t with dependee := dependee }

/-- The name that number `k` stands for. -/
def candidate (typeName : String) (k : Nat) : String := if k = 1 then typeName else typeName ++ toString k

/-- The number that was given out last for a type. -/
def counter (t : Template) (typeName : String) : Nat := (t.counters.find? typeName).getD 0

/-- The number that is given out next for a type. -/
def nextNumber (t : Template) (typeName : String) : Nat :=
  leastFree (candidate typeName) t.names.keys (t.counter typeName + 1)

/-- A logical name for a resource of a type, and the template that remembers its number. -/
def allocate (t : Template) (typeName : String) : String × Template :=
  (candidate typeName (t.nextNumber typeName),
    { t with counters := t.counters.insert typeName (t.nextNumber typeName) })

/-- A resource registered in place: the answer, and the template afterwards. -/
def enter (t : Template) (r : Resource) : Except TemplateError Resource × Template :=
  if r.logicalName.isEmpty then (.error (.emptyName r.resourceType), t)
  else
    match t.resources.find? (·.logicalName == r.logicalName) with
    | some existing => (.error (.duplicateName r.logicalName existing.resourceType), t)
    | none => (.ok r, { t with resources := t.resources ++ [r], names := t.names.insert r.logicalName () })

/-- The template with one more resource, if its logical name can be taken. -/
def register (t : Template) (r : Resource) : Except TemplateError Template :=
  match t.enter r with
  | (.ok _, t) => .ok t
  | (.error e, _) => .error e

end Template

end Typewright
