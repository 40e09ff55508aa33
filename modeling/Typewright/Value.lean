import Typewright.Json.Basic

/-!
# The value envelope

A scalar of a generated type is either given at once, or left to the system that reads the template in the end: as a
reference to a resource, to an attribute of one, to a parameter, or as a function of that system with its arguments.
-/

namespace Typewright

inductive Deferred where
  | reference (logicalName : String)
  | attributeOf (logicalName attributeName : String)
  | parameter (name : String)
  | function (name : String) (arguments : List Json)

/-- Whether two deferred values are written alike. -/
def Deferred.same : Deferred → Deferred → Bool
  | .reference a, .reference b => a == b
  | .attributeOf a x, .attributeOf b y => a == b && x == y
  | .parameter a, .parameter b => a == b
  | .function f xs, .function g ys => f == g && (Json.array xs).same (.array ys)
  | _, _ => false

inductive Value (α : Type) where
  /-- A value that is known. -/
  | of (a : α)
  | deferred (d : Deferred)

namespace Value

variable {α : Type}

def reference (logicalName : String) : Value α := deferred (.reference logicalName)

def attributeOf (logicalName attributeName : String) : Value α := deferred (.attributeOf logicalName attributeName)

def parameter (name : String) : Value α := deferred (.parameter name)

def function (name : String) (arguments : List Json) : Value α := deferred (.function name arguments)

/-- The value if it is known. -/
def literal? : Value α → Option α
  | of a => some a
  | deferred _ => none

def isDeferred : Value α → Bool
  | of _ => false
  | deferred _ => true

/-- Whether two values are alike, where `same` compares known ones. -/
def same (same : α → α → Bool) : Value α → Value α → Bool
  | of a, of b => same a b
  | deferred d, deferred e => d.same e
  | _, _ => false

end Value

end Typewright
