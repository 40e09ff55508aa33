import Typewright.Schema.Basic

/-!
# Merging schemas

Partial schemas are merged from left to right. Types that several of them describe are merged member by member; where
two of them describe the same field, attribute or documentation, the earlier description is kept as it is.
-/

namespace Typewright

/-- What can be wrong with the schemas of a run, or with the schema they make together. -/
inductive SchemaError where
  | noDocuments
  | shapeless (typeName field : String)
  | invalidTypeName (name : String)
  deriving DecidableEq, Repr

def SchemaError.message : SchemaError → String
  | .noDocuments => "no schema documents to merge"
  | .shapeless typeName field =>
    "malformed descriptor for field '" ++ field ++ "' of '" ++ typeName ++
      "': none of PrimitiveType, PrimitiveItemType, ItemType or Type is set"
  | .invalidTypeName name => "invalid type name '" ++ name ++ "'"

/-- Both descriptions of one type, the left one winning member by member. -/
def TypeSpec.merge (a b : TypeSpec) : TypeSpec where
  fields := a.fields.unionWith (fun left _ => left) b.fields
  attributes := a.attributes.unionWith (fun left _ => left) b.attributes
  documentation := a.documentation.or b.documentation

namespace Schema

def merge (a b : Schema) : Schema := Catalogue.unionWith TypeSpec.merge a b

/-- All schemas merged in their order; there must be at least one. -/
def mergeAll : List Schema → Except SchemaError Schema
  | [] => .error .noDocuments
  | first :: rest => .ok (rest.foldl merge first)

end Schema

end Typewright
