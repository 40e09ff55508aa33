import Typewright.Source.Types
import Typewright.Text.Quoted

/-!
# How bodies are written

A body is one expression, but for a body that ends in an assignment or a registration: this takes two statements,
which stand in a block of their own where they are part of an expression. A struct field that is given the parameter
of its own name is written short.
-/

namespace Typewright.Source

/-- A method called on a value. -/
def method (receiver : Code) (name : String) (args : Code) : Code := receiver ++ word "." ++ word name ++ parens args

/-- A member overwritten, and the receiver. -/
def assignment (member : String) (value : Code) : Code :=
  tokens "self ." ++ word member ++ word "=" ++ value ++ word ";" ++ word "self"

/-- A resource kept and registered. -/
def registration (context : String) (value : Code) : Code :=
  tokens "let resource =" ++ value ++ word ";" ++ method (word context) "register" (word "resource")

/-- Puts a scalar into the value envelope. -/
def envelope (scope : Scope) : Code := scope.runtimeItem "Value" ++ tokens ":: Of"

/-- The function that wraps the value of a map entry. -/
def wrapEntry (scope : Scope) : Code :=
  word "|" ++ parens (tokens "key , value") ++ word "|" ++
    parens (tokens "key ," ++ envelope scope ++ parens (word "value"))

/-- Every item of a collection replaced. -/
def mapItems (collection change : Code) : Code :=
  method (method (method collection "into_iter" []) "map" change) "collect" []

def heap : Code := tokens ":: std :: boxed :: Box :: new"

mutual

def expression (scope : Scope) : Body → Except RenderError Code
  | .param name => return word (← identifier name)
  | .held name => return tokens "self ." ++ word (← identifier name)
  | .wrap b => return envelope scope ++ parens (← expression scope b)
  | .wrapEach b => return mapItems (← expression scope b) (envelope scope)
  | .wrapValues b => return mapItems (← expression scope b) (wrapEntry scope)
  | .boxed b => return heap ++ parens (← expression scope b)
  | .boxedOptional b => return method (← expression scope b) "map" heap
  | .present b => return tokens ":: std :: option :: Option :: Some" ++ parens (← expression scope b)
  | .absent => return tokens ":: std :: option :: Option :: None"
  | .construct target fields => do
    let path ← scope.dataPath target
    return path.code ++ braces (commas (← fieldInits scope fields))
  | .constructBuilder target fields => do
    let path ← scope.builderPath target
    return path.code ++ braces (commas (← fieldInits scope fields))
  | .newBuilder target args => do
    let path ← scope.builderPath target
    return path.code ++ tokens ":: new" ++ parens (commas (← expressions scope args))
  | .invokeFactory target args => do
    let path ← scope.dataPath target
    return path.code ++ tokens ":: create" ++ parens (commas (← expressions scope args))
  | .applyConfigure step builder => do
    let step ← identifier step
    return word step ++ parens (← expression scope builder)
  | .invokeBuild b => return method (← expression scope b) "build" []
  | .callSetter setter value => do
    let setter ← identifier setter
    return method (word "self") setter (← expression scope value)
  | .assign member value => do
    let member ← identifier member
    return braces (assignment member (← expression scope value))
  | .logicalNameOr supplied context allocated => do
    let supplied ← expression scope supplied
    let context ← identifier context
    return method supplied "unwrap_or_else"
      (word "||" ++ method (word context) "allocate_logical_name" (word (Text.literal allocated)))
  | .dependenciesOr supplied context => do
    let supplied ← expression scope supplied
    let context ← identifier context
    return method supplied "or_else" (word "||" ++ method (word context) "current_dependee" [])
  | .register context value => do
    let context ← identifier context
    return braces (registration context (← expression scope value))
  | .attributeRef name =>
    return scope.runtimeItem "Value" ++ tokens ":: attribute" ++
      parens (method (tokens "self . logical_name") "clone" [] ++ word "," ++ word (Text.literal name))

/-- Struct fields with their values. -/
def fieldInits (scope : Scope) : List (String × Body) → Except RenderError (List Code)
  | [] => return []
  | (name, value) :: rest => do
    let field ← identifier name
    if value.isParam name then
      return word field :: (← fieldInits scope rest)
    else
      let value ← expression scope value
      return (word field ++ word ":" ++ value) :: (← fieldInits scope rest)

def expressions (scope : Scope) : List Body → Except RenderError (List Code)
  | [] => return []
  | b :: rest => return (← expression scope b) :: (← expressions scope rest)

end

/-- The body of a function without its braces. -/
def functionBody (scope : Scope) : Body → Except RenderError Code
  | .assign member value => do
    let member ← identifier member
    return assignment member (← expression scope value)
  | .register context value => do
    let context ← identifier context
    return registration context (← expression scope value)
  | b => expression scope b

end Typewright.Source
