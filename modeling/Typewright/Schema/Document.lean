import Typewright.Files.Error
import Typewright.Json.Reader
import Typewright.Schema.Basic
import Typewright.Text.Quoted

/-!
# Schema documents

A document is a JSON object with a section of resource types and one of property types. Every type is an object with
its properties, attributes and documentation, and every field or attribute an object of descriptor keys. All these
keys are read in any mix of ASCII case and unknown ones are passed over; the names of types, fields and attributes
are kept as they are. The first value of the wrong kind, depth first in order of keys, is blamed with the keys that
lead to it; inside a descriptor the first key in order of lower-cased names is.
-/

namespace Typewright

/-- What a descriptor key should hold. -/
inductive Expected where
  | text
  | flag
  deriving DecidableEq, Repr

def Expected.describe : Expected → String
  | .text => "a string"
  | .flag => "a boolean"

/-- What is wrong with a value of a document. -/
inductive DescriptorFault where
  | notObject
  | mismatch (found : Json) (expected : Expected)

inductive DocumentError where
  | malformed (e : Json.SyntaxError)
  | descriptor (path : List String) (fault : DescriptorFault)
  | rootNotObject
  | unreadable (e : FileError)

/-- The kind of a value, as a message about a wrong one names it. -/
def Json.describe : Json → String
  | .null => "null"
  | .bool b => "boolean `" ++ toString b ++ "`"
  | .number (.integer n) => "integer `" ++ toString n ++ "`"
  | .number (.real x) => "floating point `" ++ x.toText ++ "`"
  | .string s => "string " ++ Text.quoted s
  | .array _ => "sequence"
  | .object _ => "map"

def DescriptorFault.message : DescriptorFault → String
  | .notObject => "expected an object"
  | .mismatch found expected => "invalid type: " ++ found.describe ++ ", expected " ++ expected.describe

def DocumentError.message : DocumentError → String
  | .malformed e => "JSON parsing error: " ++ e.message
  | .descriptor path fault =>
    "invalid descriptor at '" ++ "/".intercalate path ++ "': " ++ fault.message
  | .rootNotObject => "invalid document structure: document root must be an object"
  | .unreadable e => "IO error: " ++ e.message

namespace Document

/-! ### Descriptors -/

/-- The entries of a descriptor under their lower-cased keys; of two keys that become equal the later one counts. -/
def foldKeys (entries : List (String × Json)) : SortedMap Json :=
  SortedMap.ofList (entries.map fun e => (Text.lowerAscii e.1, e.2))

/-- A text that may be missing or null. -/
def optionalText (descriptor : SortedMap Json) (key : String) : Except DescriptorFault (Option String) :=
  match descriptor.find? key with
  | none => .ok none
  | some .null => .ok none
  | some (.string s) => .ok (some s)
  | some v => .error (.mismatch v .text)

/-- A flag that is off if it is missing. -/
def flag (descriptor : SortedMap Json) (key : String) : Except DescriptorFault Bool :=
  match descriptor.find? key with
  | none => .ok false
  | some (.bool b) => .ok b
  | some v => .error (.mismatch v .flag)

/-- An empty text counts as unset. -/
def nonEmpty (s : Option String) : Option String := s.filter (!·.isEmpty)

/-- The keys are read in alphabetical order, so the first fault is that of the first key. -/
def field (descriptor : SortedMap Json) : Except DescriptorFault Field := do
  let documentation ← optionalText descriptor "documentation"
  let item ← optionalText descriptor "itemtype"
  let primitiveItem ← optionalText descriptor "primitiveitemtype"
  let primitive ← optionalText descriptor "primitivetype"
  let required ← flag descriptor "required"
  let typeName ← optionalText descriptor "type"
  return {
    required
    primitive := nonEmpty primitive
    primitiveItem := nonEmpty primitiveItem
    item := nonEmpty item
    typeName := nonEmpty typeName
    documentation }

def attributeSpec (descriptor : SortedMap Json) : Except DescriptorFault Attribute := do
  let primitiveItem ← optionalText descriptor "primitiveitemtype"
  let primitive ← optionalText descriptor "primitivetype"
  let typeName ← optionalText descriptor "type"
  return {
    primitive := nonEmpty primitive
    primitiveItem := nonEmpty primitiveItem
    typeName := nonEmpty typeName }

/-! ### Types -/

/-- The entries of the object at `path`. -/
def entriesAt (path : List String) : Json → Except DocumentError (List (String × Json))
  | .object entries => .ok entries
  | _ => .error (.descriptor path .notObject)

/-- A descriptor at `path`, read by `read`. -/
def descriptorAt {α : Type} (path : List String) (read : SortedMap Json → Except DescriptorFault α) (value : Json) :
    Except DocumentError α := do
  let entries ← entriesAt path value
  match read (foldKeys entries) with
  | .ok a => .ok a
  | .error fault => .error (.descriptor path fault)

/-- What a key of a type holds. -/
inductive TypeKey where
  | properties
  | attributes
  | documentation
  | other
  deriving DecidableEq, Repr

def TypeKey.ofKey (key : String) : TypeKey :=
  match Text.lowerAscii key with
  | "properties" => .properties
  | "attributes" => .attributes
  | "documentation" => .documentation
  | _ => .other

/-- A text, or nothing for any other value. -/
def text? : Json → Option String
  | .string s => some s
  | _ => none

/-- `spec` with what stands under one key of the type at `path`. -/
def readTypeEntry (path : List String) (spec : TypeSpec) (entry : String × Json) : Except DocumentError TypeSpec :=
  let here := path ++ [entry.1]
  match TypeKey.ofKey entry.1 with
  | .properties => do
    (← entriesAt here entry.2).foldlM (fun spec e => do
      return spec.withField e.1 (← descriptorAt (here ++ [e.1]) field e.2)) spec
  | .attributes => do
    (← entriesAt here entry.2).foldlM (fun spec e => do
      return spec.withAttribute e.1 (← descriptorAt (here ++ [e.1]) attributeSpec e.2)) spec
  | .documentation => .ok { spec with documentation := text? entry.2 }
  | .other => .ok spec

/-- The type at `path`. -/
def readType (path : List String) (value : Json) : Except DocumentError TypeSpec := do
  (← entriesAt path value).foldlM (readTypeEntry path) .empty

/-! ### Sections -/

/-- What a key of a document holds. A document of a single resource type may use the singular. -/
inductive SectionKey where
  | types (kind : TypeKind)
  | version
  | unknown
  deriving DecidableEq, Repr

def SectionKey.ofKey (key : String) : SectionKey :=
  match Text.lowerAscii key with
  | "resourcetypes" => .types .resource
  | "resourcetype" => .types .resource
  | "propertytypes" => .types .property
  | "resourcespecificationversion" => .version
  | _ => .unknown

/-- `schema` with the types of one kind under `key`; each replaces what an earlier section said about it. -/
def readTypes (schema : Schema) (kind : TypeKind) (key : String) (value : Json) : Except DocumentError Schema := do
  (← entriesAt [key] value).foldlM (fun (schema : Schema) e => do
    return schema.insert ⟨kind, e.1⟩ (← readType [key, e.1] e.2)) schema

/-- `schema` with what stands under one key of the document. -/
def readSection (schema : Schema) (entry : String × Json) : Except DocumentError Schema :=
  match SectionKey.ofKey entry.1 with
  | .types kind => readTypes schema kind entry.1 entry.2
  | .version => .ok schema
  | .unknown => .ok schema

end Document

namespace Schema

/-- The schema that a JSON value describes. -/
def ofJson : Json → Except DocumentError Schema
  | .object entries => entries.foldlM Document.readSection Catalogue.empty
  | _ => .error .rootNotObject

/-- The schema that the text of a document describes. -/
def ofText (text : String) : Except DocumentError Schema :=
  match Json.parse text with
  | .ok value => ofJson value
  | .error e => .error (.malformed e)

end Schema

end Typewright
