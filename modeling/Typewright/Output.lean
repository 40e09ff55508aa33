import Typewright.Files.Store
import Typewright.Generation

/-!
# Where artifacts go

Artifacts are kept as bundles, or written down into a file. Nothing is written before the whole text has been made,
and the directories above the file are made where they are missing.
-/

namespace Typewright.Output

/-- The text of a bundle in the file at `path`. -/
def write (store : FileStore) (path : String) (config : Config) (bundle : Bundle) :
    Except GenerationError FileStore := do
  let text ← Generation.source bundle config
  (store.save path text.toUTF8).mapError .file

/-- The artifacts of `schemas` behind the bundles that are kept already. -/
def keep (kept : List Bundle) (schemas : List Schema) (config : Config) : Except GenerationError (List Bundle) := do
  return kept ++ [← Generation.ofSchemas schemas config]

end Typewright.Output
