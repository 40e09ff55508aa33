import Typewright.Json.Lexeme
import Typewright.SortedMap

/-!
# Reading JSON texts

The reader keeps the containers that are open and what may come next. Each lexeme takes it one step further, so
the first lexeme that cannot go on is the one that is blamed, and at the end of the text the state says what is
missing. At most 127 containers may be open at once. An object keeps its entries in order of names, and the last
of several entries of one name.
-/

namespace Typewright.Json

/-- A container that is being read; of an object also the name whose value is next. -/
inductive Frame where
  | array (items : List Json)
  | object (entries : SortedMap Json) (key : String)

/-- What may come next. -/
inductive Due where
  | value
  | firstItem
  | nextItem
  | firstKey (entries : SortedMap Json)
  | nextKey (entries : SortedMap Json)
  | colon (entries : SortedMap Json) (key : String)
  | itemEnd (items : List Json)
  | entryEnd (entries : SortedMap Json)
  | nothing (result : Json)

/-- The containers around what is due, the innermost first. An object whose key is due, or any container whose
    end may come, is held by `due` itself. -/
structure State where
  frames : List Frame
  due : Due

def depthLimit : Nat := 127

namespace State

def start : State := ⟨[], .value⟩

/-- A value has been read. -/
def complete (frames : List Frame) (value : Json) : State :=
  match frames with
  | [] => ⟨[], .nothing value⟩
  | .array items :: outer => ⟨outer, .itemEnd (value :: items)⟩
  | .object entries key :: outer => ⟨outer, .entryEnd (entries.insert key value)⟩

/-- The first lexeme of a value inside `frames`; `here` makes a fault at its first byte. -/
def beginValue (frames : List Frame) (here : Reason → Fault) : Lexeme → Except Fault State
  | .openArray =>
    if frames.length < depthLimit then .ok ⟨.array [] :: frames, .firstItem⟩ else .error (here .tooDeep)
  | .openObject =>
    if frames.length < depthLimit then .ok ⟨frames, .firstKey .empty⟩ else .error (here .tooDeep)
  | .text s => .ok (complete frames (.string s))
  | .scalar v => .ok (complete frames v)
  | .brokenText e => .error e
  | .brokenScalar e => .error e
  | _ => .error (here .valueExpected)

/-- One lexeme; `here` makes a fault at its first byte. -/
def step (s : State) (here : Reason → Fault) (l : Lexeme) : Except Fault State :=
  match s.due with
  | .value => beginValue s.frames here l
  | .firstItem =>
    match l, s.frames with
    | .closeArray, .array items :: outer => .ok (complete outer (.array items.reverse))
    | l, frames => beginValue frames here l
  | .nextItem =>
    match l with
    | .closeArray => .error (here .trailingComma)
    | l => beginValue s.frames here l
  | .firstKey entries =>
    match l with
    | .closeObject => .ok (complete s.frames (.object entries.entries))
    | .text key => .ok ⟨s.frames, .colon entries key⟩
    | .brokenText e => .error e
    | _ => .error (here .keyExpected)
  | .nextKey entries =>
    match l with
    | .closeObject => .error (here .trailingComma)
    | .text key => .ok ⟨s.frames, .colon entries key⟩
    | .brokenText e => .error e
    | _ => .error (here .keyExpected)
  | .colon entries key =>
    match l with
    | .colon => .ok ⟨.object entries key :: s.frames, .value⟩
    | _ => .error (here .colonExpected)
  | .itemEnd items =>
    match l with
    | .comma => .ok ⟨.array items :: s.frames, .nextItem⟩
    | .closeArray => .ok (complete s.frames (.array items.reverse))
    | _ => .error (here .itemEndExpected)
  | .entryEnd entries =>
    match l with
    | .comma => .ok ⟨s.frames, .nextKey entries⟩
    | .closeObject => .ok (complete s.frames (.object entries.entries))
    | _ => .error (here .entryEndExpected)
  | .nothing _ => .error (here .trailingCharacters)

/-- The answer at the end of the text. -/
def finish (s : State) : Except Fault Json :=
  match s.due with
  | .nothing result => .ok result
  | .value | .nextItem | .nextKey _ => .error ⟨.valueEnds, 0⟩
  | .firstItem | .itemEnd _ => .error ⟨.listEnds, 0⟩
  | .firstKey _ | .colon _ _ | .entryEnd _ => .error ⟨.objectEnds, 0⟩

/-- Reads the rest of a text. -/
def run (s : State) (cs : List Char) : Except Fault Json :=
  match cs with
  | [] => s.finish
  | c :: rest =>
    if isBlank c then run s rest
    else
      let (l, ⟨rest', _⟩) := lexeme c rest
      match s.step (fun reason => .at reason (c :: rest)) l with
      | .error e => .error e
      | .ok s' => run s' rest'
termination_by cs.length
decreasing_by all_goals simp; try omega

end State

/-- The value that a text holds. -/
def parse (text : String) : Except SyntaxError Json :=
  let cs := text.toList
  match State.start.run cs with
  | .ok value => .ok value
  | .error fault => .error ⟨fault.reason, fault.position cs⟩

end Typewright.Json
