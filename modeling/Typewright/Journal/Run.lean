import Typewright.Generation
import Typewright.Journal.Event

/-!
# The events of a run

The steps of a run are pure functions, and what they have to say is found by walking over the same data once more. A
step that fails says nothing after the failure. Members are boxed in no order of their own, so these events are put
into the order of their texts.
-/

namespace Typewright.Journal

/-- What a fold has to say up to the element at which it fails: `note` is asked about every element before it. -/
def alongFold {σ α ε : Type} (step : σ → α → Except ε σ) (note : α → List Event) : σ → List α → List Event
  | _, [] => []
  | s, a :: rest =>
    match step s a with
    | .ok s => note a ++ alongFold step note s rest
    | .error _ => []

/-- A key that is no section. -/
def sectionNote (entry : String × Json) : List Event :=
  match Document.SectionKey.ofKey entry.1 with
  | .unknown => [.unknownSection entry.1]
  | _ => []

/-- The events of reading a JSON value as a document. -/
def ofJson (value : Json) : List Event :=
  (match value with
    | .object entries => alongFold Document.readSection sectionNote Catalogue.empty entries
    | _ => []) ++
  match Schema.ofJson value with
  | .ok schema => [.parsed schema.resources.size schema.properties.size]
  | .error _ => []

/-- The events of reading a document. -/
def ofDocument (text : String) : List Event :=
  match Json.parse text with
  | .ok value => ofJson value
  | .error _ => []

/-- The events of reading documents up to the first that cannot be read. -/
def ofDocuments : List String → List Event
  | [] => []
  | text :: rest =>
    ofDocument text ++ if (Schema.ofText text).isOk then ofDocuments rest else []

/-- The events of merging further schemas into `merged`. -/
def ofMerging (number : Nat) (merged : Schema) : List Schema → List Event
  | [] => []
  | next :: rest => .merging number next.size merged.size :: ofMerging (number + 1) (merged.merge next) rest

def ofMerge : List Schema → List Event
  | [] => []
  | first :: rest => ofMerging 1 first rest

/-- The events of checking fields, up to the first that has no shape. -/
def ofFields (typeName : String) : List (String × Field) → List Event
  | [] => []
  | (name, field) :: rest =>
    match field.shapeCount with
    | 0 => []
    | 1 => ofFields typeName rest
    | _ => .severalShapes typeName name :: ofFields typeName rest

/-- The events of validating types, up to the first that is not valid. -/
def ofTypes : List (TypeId × TypeSpec) → List Event
  | [] => []
  | (id, spec) :: rest =>
    (if (Schema.checkTypeName id.name).isOk then ofFields id.name spec.fields.entries else []) ++
      if (Schema.checkType id.name spec).isOk then ofTypes rest else []

def ofValidation (schema : Schema) : List Event := ofTypes schema.toList

/-- The events of boxing, in the order of their texts. -/
def ofBoxing (table : MemberTable) : List Event :=
  (table.toList.flatMap fun e =>
    (e.2.filter (·.boxed)).map fun m => Event.boxing e.1.name m.name).mergeSort fun a b => a.line ≤ b.line

/-- The events of making artifacts, up to the first that is refused. -/
def ofArtifacts (config : Config) (table : MemberTable) : List (TypeId × TypeSpec) → List Event
  | [] => []
  | (id, spec) :: rest =>
    match Emission.checkedArtifact config table id spec with
    | .ok a =>
      .emitted id.name a.placement a.data.members.length a.builder.setters.length :: ofArtifacts config table rest
    | .error _ => []

/-- The events of making all artifacts of a schema. -/
def ofEmission (schema : Schema) (config : Config) : List Event :=
  match Emission.memberTable schema with
  | .error _ => []
  | .ok members =>
    let table := members.boxCycles
    ofBoxing table ++
      (if (Emission.checkItems schema config).isOk then ofArtifacts config table schema.toList else []) ++
      match Bundle.ofSchema schema config with
      | .ok bundle => [.bundled bundle.properties.length bundle.resources.length]
      | .error _ => []

/-- The events of a run over schemas that have been read. -/
def ofSchemas (schemas : List Schema) (config : Config) : List Event :=
  ofMerge schemas ++
    match Schema.mergeAll schemas with
    | .error _ => []
    | .ok schema => ofValidation schema ++ if schema.validate.isOk then ofEmission schema config else []

/-- The events of writing a bundle down. -/
def ofRendering (bundle : Bundle) (config : Config) : List Event :=
  if (Source.render bundle config).isOk then [.rendered bundle.size] else []

/-- The events of a whole run. -/
def ofRun (texts : List String) (config : Config) : List Event :=
  ofDocuments texts ++
    match Generation.readAll texts with
    | .error _ => []
    | .ok schemas =>
      ofSchemas schemas config ++
        match Generation.ofSchemas schemas config with
        | .ok bundle => ofRendering bundle config
        | .error _ => []

/-- The warnings among events. -/
def warnings (events : List Event) : List String := (events.filter (·.level = .warn)).map Event.message

end Typewright.Journal
