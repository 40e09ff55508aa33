import Typewright.Source.Token
import Typewright.Text.Quoted

/-!
# Items of generated source

What a module declares: data types with their fields, implementations with functions and constants, functions, and
further modules. Types and bodies are kept as the tokens they are written with.
-/

namespace Typewright.Source

inductive Attribute where
  | doc (text : String)
  | mustUse
  | derive (interfaces : List String)
  /-- Keeps a checker from complaining about the number of parameters. -/
  | manyArguments
  deriving DecidableEq, Repr

def Attribute.code (a : Attribute) : Code :=
  word "#" ++ squares (match a with
    | .doc text => tokens "doc =" ++ word (Text.literal text)
    | .mustUse => word "must_use"
    | .derive interfaces => word "derive" ++ parens (commas (interfaces.map word))
    | .manyArguments => word "allow" ++ parens (tokens "clippy :: too_many_arguments"))

/-- A field of a data type. -/
structure StructField where
  attributes : List Attribute
  isPublic : Bool
  name : String
  type : Code

structure Struct where
  attributes : List Attribute
  name : String
  fields : List StructField

structure Function where
  attributes : List Attribute
  isPublic : Bool
  name : String
  /-- Receiver and parameters, each with its type. -/
  inputs : List Code
  result : Code
  body : Code

/-- A part of an implementation. -/
inductive Member where
  | constant (attributes : List Attribute) (name : String) (type value : Code)
  | function (f : Function)

structure Implementation where
  /-- What is implemented, if it is not the methods of the type itself. -/
  interface : Option Code
  target : String
  members : List Member

inductive Item where
  | struct (s : Struct)
  | implementation (i : Implementation)
  | function (f : Function)
  | module (attributes : List Attribute) (name : String) (items : List Item)

def attributesCode (attributes : List Attribute) : Code := attributes.flatMap Attribute.code

/-- Makes what follows visible from other modules. -/
def visibility (isPublic : Bool) : Code := if isPublic then word "pub" else []

def StructField.code (f : StructField) : Code :=
  attributesCode f.attributes ++ visibility f.isPublic ++ word f.name ++ word ":" ++ f.type

def Struct.code (s : Struct) : Code :=
  attributesCode s.attributes ++ tokens "pub struct" ++ word s.name ++
    braces (s.fields.flatMap fun f => f.code ++ word ",")

def Function.code (f : Function) : Code :=
  attributesCode f.attributes ++ visibility f.isPublic ++ word "fn" ++ word f.name ++ parens (commas f.inputs) ++
    word "->" ++ f.result ++ braces f.body

def Member.code : Member → Code
  | .constant attributes name type value =>
    attributesCode attributes ++ tokens "pub const" ++ word name ++ word ":" ++ type ++ word "=" ++ value ++ word ";"
  | .function f => f.code

def Implementation.code (i : Implementation) : Code :=
  word "impl" ++ (match i.interface with
    | some interface => interface ++ word "for"
    | none => []) ++ word i.target ++ braces (i.members.flatMap Member.code)

mutual

def Item.code : Item → Code
  | .struct s => s.code
  | .implementation i => i.code
  | .function f => f.code
  | .module attributes name items =>
    attributesCode attributes ++ tokens "pub mod" ++ word name ++ braces (Item.codeOfList items)

def Item.codeOfList : List Item → Code
  | [] => []
  | i :: rest => i.code ++ Item.codeOfList rest

end

end Typewright.Source
