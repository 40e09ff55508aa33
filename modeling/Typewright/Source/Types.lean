import Typewright.Source.Scope

/-!
# How types are written

A type of the standard library is written by its full path, so that no name in the module can hide it; a scalar of
the runtime library stands behind the path of that library, and any other scalar is a name as it is.
-/

namespace Typewright.Source

def stringCode : Code := tokens ":: std :: string :: String"

def optionOf (item : Code) : Code := tokens ":: std :: option :: Option <" ++ item ++ word ">"

def boxOf (item : Code) : Code := tokens ":: std :: boxed :: Box <" ++ item ++ word ">"

/-- The type of explicit dependencies. -/
def dependenciesCode : Code := tokens ":: std :: option :: Option < :: std :: vec :: Vec < :: std :: string :: String >>"

def scalarCode (scope : Scope) (s : Scalar) : Except RenderError Code := do
  if s = .string then
    return stringCode
  let name ← identifier s.typeName
  return if s.isRuntimeType then scope.runtimeItem name else word name

/-- A type in the value envelope. -/
def valueOf (scope : Scope) (item : Code) : Code := scope.runtimeItem "Value" ++ word "<" ++ item ++ word ">"

def typeCode (scope : Scope) : FieldType → Except RenderError Code
  | .scalar s => scalarCode scope s
  | .value s => return valueOf scope (← scalarCode scope s)
  | .list item => return tokens ":: std :: vec :: Vec <" ++ (← typeCode scope item) ++ word ">"
  | .map item =>
    return tokens ":: std :: collections :: BTreeMap <" ++ stringCode ++ word "," ++ (← typeCode scope item) ++ word ">"
  | .named name => return (← scope.dataPath name).code

def paramTypeCode (scope : Scope) : ParamType → Except RenderError Code
  | .value type => typeCode scope type
  | .optional type => return optionOf (← typeCode scope type)
  | .logicalName => return stringCode
  | .optionalLogicalName => return optionOf stringCode
  | .dependencies => return dependenciesCode
  | .configure target => do
    let builder := (← scope.builderPath target).code
    return tokens "impl FnOnce" ++ parens builder ++ word "->" ++ builder
  | .context => return tokens "& mut impl" ++ scope.runtimeItem "Template"

/-- A parameter with its type. -/
def paramCode (scope : Scope) (p : Param) : Except RenderError Code := do
  let name ← identifier p.name
  return word name ++ word ":" ++ (← paramTypeCode scope p.type)

end Typewright.Source
