/-!
# Why artifacts cannot be written down

A name may be no identifier of the generated language, a body may mention a type that has no artifact, and the path
of the runtime library may be malformed.
-/

namespace Typewright

/-- What is wrong with the path of the runtime library. -/
inductive PathFault where
  /-- It is no sequence of lexemes at all. -/
  | notLexemes
  /-- It ends where a name is due. -/
  | ends
  /-- Something else stands where a name is due. -/
  | notName
  /-- A keyword stands where a name is due. -/
  | keyword (word : String)
  /-- Something follows the path. -/
  | leftOver
  deriving DecidableEq, Repr

def PathFault.message : PathFault → String
  | .notLexemes => "cannot parse string into token stream"
  | .ends => "unexpected end of input, expected identifier"
  | .notName => "expected identifier"
  | .keyword word => "expected identifier, found keyword `" ++ word ++ "`"
  | .leftOver => "unexpected token"

inductive RenderError where
  | invalidIdentifier (name : String)
  | unknownType (name : String)
  | runtimePath (text : String) (fault : PathFault)
  deriving DecidableEq, Repr

def RenderError.message : RenderError → String
  | .invalidIdentifier name => "'" ++ name ++ "' is not a valid identifier"
  | .unknownType name => "generation error: reference to unknown type '" ++ name ++ "'"
  | .runtimePath text fault => "generation error: invalid runtime path '" ++ text ++ "': " ++ fault.message

end Typewright
