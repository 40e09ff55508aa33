import Typewright.Catalogue
import Typewright.Config
import Typewright.MemberName
import Typewright.TypeName

/-!
# Where a type is placed

The last segment of a type name is the name of its class. The other segments, in lower case, are the module below
the root of its kind. A first segment equal to the vendor, up to ASCII case, is left out, and resource types stand
right under their root unless the settings qualify them.
-/

namespace Typewright

/-- The module and the class of a generated type. -/
structure Placement where
  root : String
  namespaces : List String
  className : String
  deriving DecidableEq, Repr

namespace Placement

/-- A namespace without the vendor at its start. -/
def stripVendor (vendor : Option String) (namespaces : List String) : List String :=
  match vendor, namespaces with
  | some vendor, first :: rest => if Text.sameAsciiCase first vendor then rest else first :: rest
  | _, namespaces => namespaces

/-- The namespace of a type, from all segments of its name but the last. -/
def namespaceOf (kind : TypeKind) (config : Config) (segments : List String) : List String :=
  match kind, config.qualifyResources with
  | .resource, false => []
  | _, _ => stripVendor config.vendor (segments.map Text.lowerText)

def rootOf (kind : TypeKind) (config : Config) : String :=
  match kind with
  | .resource => config.resourceRoot
  | .property => config.propertyRoot

/-- The placement of a declared type. -/
def ofType (id : TypeId) (config : Config) : Placement :=
  let segments := TypeName.segments id.name
  { root := rootOf id.kind config
    namespaces := namespaceOf id.kind config segments.dropLast
    className := segments.getLast?.getD id.name }

/-- The namespace as one text. -/
def namespacePath (p : Placement) : String := ".".intercalate p.namespaces

/-- The module, from the root on. -/
def modulePath (p : Placement) : List String := p.root :: p.namespaces

def builderName (p : Placement) : String := p.className ++ "Builder"

/-- The function that makes a value of the type. -/
def helperName (p : Placement) : String := memberName p.className

end Placement

end Typewright
