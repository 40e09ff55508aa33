import Typewright.Source.ModuleTree

/-!
# The generated file

All artifacts of a bundle stand in one file of nested modules, below a line that says where the file comes from.
-/

namespace Typewright.Source

/-- The first line of every generated file. -/
def header : String := "// @generated by stackgen-codegen. Do not edit."

/-- The items of the file. -/
def fileItems (bundle : Bundle) (config : Config) : Except RenderError (List Item) := do
  let runtime ← RuntimePath.ofText config.runtimePath
  moduleItems bundle runtime [] (modulesOf bundle)

/-- The text of the file. -/
def render (bundle : Bundle) (config : Config) : Except RenderError String := do
  let items ← fileItems bundle config
  return header ++ "\n" ++ Code.text (Item.codeOfList items) ++ "\n"

end Typewright.Source
