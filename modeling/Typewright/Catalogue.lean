import Typewright.SortedMap

/-!
# Two sections of named types

A catalogue holds one thing for every declared type: a descriptor, or what has been computed from it. Resource types
and property types have a section each, and one name may stand in both. Where a name alone is given, the property
type is meant (`Catalogue.kindOf?`).
-/

namespace Typewright

/-- The section that a type is declared in. -/
inductive TypeKind where
  | resource
  | property
  deriving DecidableEq, Repr

def TypeKind.isResource : TypeKind → Bool
  | .resource => true
  | .property => false

/-- A declared type: names alone do not tell two types apart. -/
structure TypeId where
  kind : TypeKind
  name : String
  deriving DecidableEq, Repr

structure Catalogue (α : Type) where
  resources : SortedMap α
  properties : SortedMap α

namespace Catalogue

variable {α β : Type}

def empty : Catalogue α := ⟨.empty, .empty⟩

instance : Inhabited (Catalogue α) := ⟨empty⟩

def sectionOf (c : Catalogue α) : TypeKind → SortedMap α
  | .resource => c.resources
  | .property => c.properties

def find? (c : Catalogue α) (id : TypeId) : Option α := (c.sectionOf id.kind).find? id.name

/-- `c` with `a` for the type `id`, whatever was there before. -/
def insert (c : Catalogue α) (id : TypeId) (a : α) : Catalogue α :=
  match id.kind with
  | .resource => { c with resources := c.resources.insert id.name a }
  | .property => { c with properties := c.properties.insert id.name a }

/-- The kind of type that a name means: a property type hides a resource type of the same name. -/
def kindOf? (c : Catalogue α) (name : String) : Option TypeKind :=
  if c.properties.contains name then some .property
  else if c.resources.contains name then some .resource
  else none

/-- What a name means, with its kind. -/
def lookup? (c : Catalogue α) (name : String) : Option (TypeKind × α) :=
  match c.properties.find? name with
  | some a => some (.property, a)
  | none => (c.resources.find? name).map fun a => (.resource, a)

def contains (c : Catalogue α) (name : String) : Bool := c.resources.contains name || c.properties.contains name

/-- Every entry, property types first, each section in order of names. -/
def toList (c : Catalogue α) : List (TypeId × α) :=
  (c.properties.entries.map fun e => (⟨.property, e.1⟩, e.2)) ++
    c.resources.entries.map fun e => (⟨.resource, e.1⟩, e.2)

/-- Every name, those of property types first. -/
def names (c : Catalogue α) : List String := c.properties.keys ++ c.resources.keys

def size (c : Catalogue α) : Nat := c.resources.size + c.properties.size

def isEmpty (c : Catalogue α) : Bool := c.resources.isEmpty && c.properties.isEmpty

def map (f : TypeId → α → β) (c : Catalogue α) : Catalogue β where
  resources := c.resources.map fun name a => f ⟨.resource, name⟩ a
  properties := c.properties.map fun name a => f ⟨.property, name⟩ a

/-- `map` for a function that may fail; the first error is that of the first entry of `toList` that fails. -/
def traverse {ε : Type} (f : TypeId → α → Except ε β) (c : Catalogue α) : Except ε (Catalogue β) :=
  match c.properties.traverse fun name a => f ⟨.property, name⟩ a with
  | .error e => .error e
  | .ok properties =>
    match c.resources.traverse fun name a => f ⟨.resource, name⟩ a with
    | .error e => .error e
    | .ok resources => .ok ⟨resources, properties⟩

/-- Both catalogues together, section by section. -/
def unionWith (f : α → α → α) (c d : Catalogue α) : Catalogue α :=
  ⟨c.resources.unionWith f d.resources, c.properties.unionWith f d.properties⟩

end Catalogue

end Typewright
