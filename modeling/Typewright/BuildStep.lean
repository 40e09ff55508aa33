import Typewright.Output

/-!
# Generation as a step of a build

The build says in which directory the output goes. The step tells the build which files it depends on, reads them,
and writes the generated file.
-/

namespace Typewright.BuildStep

/-- What a step prints, and the path of the file that it has written into the store. -/
structure Outcome where
  printed : String
  result : Except GenerationError (String × FileStore)

/-- What the build reads: the lines that a step has printed. A path may hold the end of a line. -/
def Outcome.lines (outcome : Outcome) : List String := (Text.lines outcome.printed.toList).map String.ofList

/-- The line by which the build knows that the step depends on a file. -/
def dependency (path : String) : String := "cargo:rerun-if-changed=" ++ path ++ "\n"

/-- The generated file `fileName` in `directory`. -/
def writeInto (store : FileStore) (directory fileName : String) (paths : List String) (config : Config) :
    Except GenerationError (String × FileStore) := do
  let bundle ← Generation.ofFiles (paths.map store.read) config
  let path := FilePath.join directory fileName
  return (path, ← Output.write store path config bundle)

def run (store : FileStore) (directory : Option String) (fileName : String) (paths : List String) (config : Config) :
    Outcome :=
  match directory with
  | none => ⟨"", .error .noOutputDirectory⟩
  | some directory => ⟨String.join (paths.map dependency), writeInto store directory fileName paths config⟩

end Typewright.BuildStep
