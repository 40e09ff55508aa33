/-!
# Bodies of generated functions

The body of a generated function is a small tree. It names types by their schema names; where they are declared is
settled when the body is written down. `Body.mentionedTypes` lists these names in the order in which a body is read.
-/

namespace Typewright

inductive Body where
  /-- A parameter of the function. -/
  | param (name : String)
  /-- A member of the receiver. -/
  | held (name : String)
  /-- A raw scalar put into the value envelope. -/
  | wrap (value : Body)
  /-- Every item of a raw list put into the value envelope. -/
  | wrapEach (value : Body)
  /-- Every value of a raw map put into the value envelope. -/
  | wrapValues (value : Body)
  /-- A value moved to the heap. -/
  | boxed (value : Body)
  /-- An optional value moved to the heap if there is one. -/
  | boxedOptional (value : Body)
  /-- An optional member that is set. -/
  | present (value : Body)
  /-- An optional member that is not set. -/
  | absent
  /-- The data type of `target` from its members. -/
  | construct (target : String) (fields : List (String × Body))
  /-- The builder of `target` from its members. -/
  | constructBuilder (target : String) (fields : List (String × Body))
  /-- A new builder of `target`. -/
  | newBuilder (target : String) (args : List Body)
  /-- The factory of `target`, called. -/
  | invokeFactory (target : String) (args : List Body)
  /-- A configuration step, a parameter, applied to a builder. -/
  | applyConfigure (step : String) (builder : Body)
  /-- A builder, built. -/
  | invokeBuild (builder : Body)
  /-- A setter of the receiver, called. -/
  | callSetter (setter : String) (value : Body)
  /-- A member of the receiver overwritten; the result is the receiver. -/
  | assign (member : String) (value : Body)
  /-- A logical name if one is supplied, and otherwise one that the context allocates for `scope`. -/
  | logicalNameOr (supplied : Body) (context scope : String)
  /-- Dependencies if they are supplied, and otherwise those the context has at hand. -/
  | dependenciesOr (supplied : Body) (context : String)
  /-- A resource registered with the context; the result is the resource. -/
  | register (context : String) (value : Body)
  /-- A deferred reference to an attribute of the receiver. -/
  | attributeRef (name : String)

instance : Inhabited Body := ⟨.absent⟩

namespace Body

mutual

/-- The schema names of the types that a body mentions, in reading order. -/
def mentionedTypes : Body → List String
  | .construct target fields | .constructBuilder target fields => target :: mentionedInFields fields
  | .newBuilder target args | .invokeFactory target args => target :: mentionedInArgs args
  | .wrap b | .wrapEach b | .wrapValues b | .boxed b | .boxedOptional b | .present b | .invokeBuild b =>
    b.mentionedTypes
  | .applyConfigure _ b | .callSetter _ b | .assign _ b | .register _ b => b.mentionedTypes
  | .logicalNameOr b _ _ | .dependenciesOr b _ => b.mentionedTypes
  | .param _ | .held _ | .absent | .attributeRef _ => []

def mentionedInFields : List (String × Body) → List String
  | [] => []
  | (_, b) :: rest => b.mentionedTypes ++ mentionedInFields rest

def mentionedInArgs : List Body → List String
  | [] => []
  | b :: rest => b.mentionedTypes ++ mentionedInArgs rest

end

/-- Whether a body ends by overwriting a member of its receiver. -/
def isAssign : Body → Bool
  | .assign _ _ => true
  | _ => false

/-- Whether a body ends by registering a resource. -/
def isRegister : Body → Bool
  | .register _ _ => true
  | _ => false

/-- Whether a body is the parameter `name`. -/
def isParam (name : String) : Body → Bool
  | .param n => n == name
  | _ => false

end Body

end Typewright
