import Typewright.Resolver

/-!
# Why a schema has no artifacts

Emission fails if the type of a field cannot be resolved, or if two things would be generated under one name.
-/

namespace Typewright

inductive EmitError where
  | fieldType (typeName field : String) (cause : ResolveError)
  /-- Two types generate one item. -/
  | artifactCollision (first second path : String)
  /-- Two members or methods of a type have one name. -/
  | memberCollision (typeName first second member : String)
  deriving DecidableEq, Repr

def EmitError.message : EmitError → String
  | .fieldType typeName field cause =>
    "cannot resolve field '" ++ field ++ "' of '" ++ typeName ++ "': " ++ cause.message
  | .artifactCollision first second path =>
    "'" ++ first ++ "' and '" ++ second ++ "' both generate '" ++ path ++ "'"
  | .memberCollision typeName first second member =>
    "fields '" ++ first ++ "' and '" ++ second ++ "' of '" ++ typeName ++ "' both generate member '" ++ member ++ "'"

end Typewright
