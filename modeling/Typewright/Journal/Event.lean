import Typewright.Placement

/-!
# Events

What a run has to say while it goes on, apart from its result.
-/

namespace Typewright

inductive EventLevel where
  | debug
  | info
  | warn
  deriving DecidableEq, Repr

def EventLevel.name : EventLevel → String
  | .debug => "DEBUG"
  | .info => "INFO"
  | .warn => "WARN"

inductive Event where
  /-- A key of a document that means nothing. -/
  | unknownSection (key : String)
  | parsed (resources properties : Nat)
  /-- Document `number`, counted from the second one on, with its size and that of all before it. -/
  | merging (number size before : Nat)
  /-- A field whose description has more shapes than one. -/
  | severalShapes (typeName field : String)
  | boxing (typeName member : String)
  | emitted (typeName : String) (placement : Placement) (members setters : Nat)
  | bundled (properties resources : Nat)
  | rendered (artifacts : Nat)
  deriving DecidableEq, Repr

namespace Event

def level : Event → EventLevel
  | .unknownSection _ | .severalShapes _ _ => .warn
  | .bundled _ _ => .info
  | _ => .debug

def message : Event → String
  | .unknownSection key => "ignoring unknown document section '" ++ key ++ "'"
  | .parsed resources properties =>
    "parsed document with " ++ toString resources ++ " resource and " ++ toString properties ++ " property types"
  | .merging number size before =>
    "merging document " ++ toString number ++ " (" ++ toString size ++ " types) into " ++ toString before ++ " types"
  | .severalShapes typeName field =>
    "field '" ++ field ++ "' of '" ++ typeName ++ "' sets several shapes, the first by priority is used"
  | .boxing typeName member => "boxing member '" ++ member ++ "' of '" ++ typeName ++ "'"
  | .emitted typeName placement members setters =>
    "emitted " ++ typeName ++ " as " ++ "::".intercalate placement.modulePath ++ "::" ++ placement.className ++ " (" ++
      toString members ++ " members, " ++ toString setters ++ " setters)"
  | .bundled properties resources =>
    "emitted " ++ toString properties ++ " property and " ++ toString resources ++ " resource artifacts"
  | .rendered artifacts => "rendered " ++ toString artifacts ++ " artifacts"

/-- The level and the message of an event. -/
def line (e : Event) : String := e.level.name ++ " " ++ e.message

end Event

end Typewright
