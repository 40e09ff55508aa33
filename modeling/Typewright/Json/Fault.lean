/-!
# Where and why a JSON text is malformed

A fault is found while some of the text is still unread. It keeps its reason and the number of bytes that lie
after the place it points at; `Fault.position` turns that into a line and a column of the text. Lines count from
one, and a column is the number of bytes since the last line feed.
-/

namespace Typewright.Json

inductive Reason where
  | valueEnds
  | listEnds
  | objectEnds
  | stringEnds
  | valueExpected
  | wordExpected
  | colonExpected
  | itemEndExpected
  | entryEndExpected
  | trailingComma
  | keyExpected
  | trailingCharacters
  | tooDeep
  | badNumber
  | numberTooLarge
  | controlCharacter
  | badEscape
  | loneSurrogate
  | escapeCutShort
  deriving DecidableEq, Repr

def Reason.message : Reason → String
  | .valueEnds => "EOF while parsing a value"
  | .listEnds => "EOF while parsing a list"
  | .objectEnds => "EOF while parsing an object"
  | .stringEnds => "EOF while parsing a string"
  | .valueExpected => "expected value"
  | .wordExpected => "expected ident"
  | .colonExpected => "expected `:`"
  | .itemEndExpected => "expected `,` or `]`"
  | .entryEndExpected => "expected `,` or `\x7d`"
  | .trailingComma => "trailing comma"
  | .keyExpected => "key must be a string"
  | .trailingCharacters => "trailing characters"
  | .tooDeep => "recursion limit exceeded"
  | .badNumber => "invalid number"
  | .numberTooLarge => "number out of range"
  | .controlCharacter => "control character (\\u0000-\\u001F) found while parsing a string"
  | .badEscape => "invalid escape"
  | .loneSurrogate => "lone leading surrogate in hex escape"
  | .escapeCutShort => "unexpected end of hex escape"

/-- The bytes of a text in UTF-8. -/
def byteCount (cs : List Char) : Nat := cs.foldl (fun n c => n + c.utf8Size) 0

/-- A reason, and how many bytes of the text lie after the fault. -/
structure Fault where
  reason : Reason
  left : Nat
  deriving DecidableEq, Repr

/-- The fault lies before `rest`, all before it having been read. -/
def Fault.before (reason : Reason) (rest : List Char) : Fault := ⟨reason, byteCount rest⟩

/-- The fault is the first byte of `rest`, and lies at the end of the text if nothing is left. -/
def Fault.at (reason : Reason) (rest : List Char) : Fault := ⟨reason, byteCount rest - 1⟩

structure Position where
  line : Nat
  column : Nat
  deriving DecidableEq, Repr

/-- The position `bytes` bytes into the text, from position `p` on. -/
def Position.advance (p : Position) : Nat → List Char → Position
  | _, [] => p
  | bytes, c :: rest =>
    if bytes < c.utf8Size then { p with column := p.column + bytes }
    else
      let next := if c = '\n' then ⟨p.line + 1, 0⟩ else { p with column := p.column + c.utf8Size }
      next.advance (bytes - c.utf8Size) rest

def Fault.position (fault : Fault) (text : List Char) : Position :=
  Position.advance ⟨1, 0⟩ (byteCount text - fault.left) text

/-- What is wrong with a text, and where. -/
structure SyntaxError where
  reason : Reason
  position : Position
  deriving DecidableEq, Repr

def SyntaxError.message (e : SyntaxError) : String :=
  e.reason.message ++ " at line " ++ toString e.position.line ++ " column " ++ toString e.position.column

end Typewright.Json
