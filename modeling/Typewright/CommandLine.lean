import Typewright.Generation

/-!
# The command line

The program is given the documents of a run and prints the generated file. Resource types get modules for their
namespaces here. How many types there are, or why there is no output, goes to the other channel.
-/

namespace Typewright.CommandLine

/-- The end of a call. -/
structure Outcome where
  exit : Nat
  output : String
  /-- What is said beside the output. -/
  remarks : String
  deriving DecidableEq, Repr

def usage : String := "usage: generate <document.json>...\n"

/-- The settings of the program. -/
def config : Config := { qualifyResources := true }

/-- How many types there are. -/
def countLine (bundle : Bundle) : String :=
  "[Generate] " ++ toString bundle.properties.length ++ " property types, " ++ toString bundle.resources.length ++
    " resource types\n"

def failureLine (e : GenerationError) : String := "[Generate] " ++ e.message ++ "\n"

/-- The end of a call, from what reading each of the documents gave. -/
def run (contents : List (Except FileError String)) : Outcome :=
  if contents.isEmpty then ⟨2, "", usage⟩
  else
    match Generation.ofFiles contents config with
    | .error e => ⟨1, "", failureLine e⟩
    | .ok bundle =>
      match Generation.source bundle config with
      | .error e => ⟨1, "", countLine bundle ++ failureLine e⟩
      | .ok text => ⟨0, text ++ "\n", countLine bundle⟩

end Typewright.CommandLine
