/-!
# Settings of a run

Where generated types go, and by which path generated code reaches the runtime library.
-/

namespace Typewright

structure Config where
  /-- Root module of resource types. -/
  resourceRoot : String := "resource"
  /-- Root module of property types. -/
  propertyRoot : String := "property"
  /-- First segment of type names that is left out of module paths. -/
  vendor : Option String := some "aws"
  /-- Path of the runtime library in generated code. -/
  runtimePath : String := "::stackgen_core"
  /-- Whether resource types get a module for their namespace. -/
  qualifyResources : Bool := false
  deriving DecidableEq, Repr, Inhabited

namespace Config

def withResourceRoot (config : Config) (root : String) : Config := { config with resourceRoot := root }

def withPropertyRoot (config : Config) (root : String) : Config := { config with propertyRoot := root }

def withVendor (config : Config) (vendor : String) : Config := { config with vendor := some vendor }

/-- Every segment of a name is kept. -/
def keepVendor (config : Config) : Config := { config with vendor := none }

def withRuntimePath (config : Config) (path : String) : Config := { config with runtimePath := path }

def withQualifiedResources (config : Config) (qualify : Bool) : Config := { config with qualifyResources := qualify }

end Config

end Typewright
