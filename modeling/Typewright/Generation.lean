import Typewright.Emission.Bundle
import Typewright.Schema.Document
import Typewright.Schema.Validation
import Typewright.Source.File

/-!
# A run

A run reads its documents, merges them, validates the merged schema, makes the artifacts and writes them down. It
stops at the first step that fails.
-/

namespace Typewright

inductive GenerationError where
  | document (cause : DocumentError)
  | schema (cause : SchemaError)
  | emission (cause : EmitError)
  | rendering (cause : RenderError)
  | file (cause : FileError)
  /-- A build does not say where its output goes. -/
  | noOutputDirectory

def GenerationError.message : GenerationError → String
  | .document cause => "schema parse error: " ++ cause.message
  | .schema cause => "schema error: " ++ cause.message
  | .emission cause => cause.message
  | .rendering cause => cause.message
  | .file cause => "IO error: " ++ cause.message
  | .noOutputDirectory => "generation error: OUT_DIR is not set"

namespace Generation

/-- The artifacts of schemas that have been read. -/
def ofSchemas (schemas : List Schema) (config : Config) : Except GenerationError Bundle := do
  let schema ← (Schema.mergeAll schemas).mapError .schema
  schema.validate.mapError .schema
  (Bundle.ofSchema schema config).mapError .emission

/-- All documents read; the first that cannot be read is blamed. -/
def readAll (texts : List String) : Except DocumentError (List Schema) := texts.mapM Schema.ofText

/-- The artifacts of the documents with these texts. -/
def ofTexts (texts : List String) (config : Config) : Except GenerationError Bundle := do
  ofSchemas (← (readAll texts).mapError .document) config

/-- The schema of a file, from what reading the file gave. -/
def schemaOfFile (content : Except FileError String) : Except DocumentError Schema :=
  match content with
  | .ok text => Schema.ofText text
  | .error cause => .error (.unreadable cause)

/-- The artifacts of files, from what reading each of them gave. -/
def ofFiles (contents : List (Except FileError String)) (config : Config) : Except GenerationError Bundle := do
  ofSchemas (← (contents.mapM schemaOfFile).mapError .document) config

/-- The text of the generated file. -/
def source (bundle : Bundle) (config : Config) : Except GenerationError String :=
  (Source.render bundle config).mapError .rendering

end Generation

end Typewright
