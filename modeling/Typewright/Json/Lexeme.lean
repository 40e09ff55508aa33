import Typewright.Json.Basic
import Typewright.Json.Fault
import Typewright.Text.Hex
import Typewright.Text.Rest

/-!
# Lexemes of a JSON text

`lexeme` reads the lexeme that starts a text without leading blanks: one of the six signs, a string, a number or
one of the words `true`, `false` and `null`. A string or a scalar may be malformed; then the lexeme carries the
fault and nothing follows it. Every reader returns what is left with a proof that it is no longer than what it was
given, by which reading ends.
-/

namespace Typewright.Json

open Text

def isBlank (c : Char) : Bool := c == ' ' || c == '\t' || c == '\n' || c == '\r'

/-! ### Strings -/

/-- The number that four hexadecimal digits write. -/
def hexUnit? (a b c d : Char) : Option Nat := do
  return (← hexDigit? a) * 0x1000 + (← hexDigit? b) * 0x100 + (← hexDigit? c) * 0x10 + (← hexDigit? d)

/-- The fault of an escape whose four bytes are not hexadecimal digits. -/
def hexFault (cs : List Char) : Fault :=
  if byteCount cs < 4 then ⟨.stringEnds, 0⟩ else ⟨.badEscape, byteCount cs - 4⟩

/-- Four hexadecimal digits. -/
def hexUnit (cs : List Char) : Except Fault (Nat × Rest cs) :=
  match cs with
  | a :: b :: c :: d :: rest =>
    match hexUnit? a b c d with
    | some n => .ok (n, ⟨rest, by simp; omega⟩)
    | none => .error (hexFault (a :: b :: c :: d :: rest))
  | cs => .error (hexFault cs)

/-- The second half of a surrogate pair, whose first half is `high`. -/
def lowHalf (high : Nat) (cs : List Char) : Except Fault (Char × Rest cs) :=
  match cs with
  | [] => .error ⟨.stringEnds, 0⟩
  | '\\' :: 'u' :: rest =>
    match hexUnit rest with
    | .error e => .error e
    | .ok (low, ⟨rest', h⟩) =>
      if 0xdc00 ≤ low ∧ low ≤ 0xdfff then
        .ok (Char.ofNat ((high - 0xd800) * 0x400 + (low - 0xdc00) + 0x10000), ⟨rest', by simp; omega⟩)
      else .error (.before .loneSurrogate rest')
  | ['\\'] => .error ⟨.stringEnds, 0⟩
  | '\\' :: rest => .error (.at .escapeCutShort rest)
  | cs => .error (.at .escapeCutShort cs)

/-- What follows a backslash. -/
def escape (cs : List Char) : Except Fault (Char × Rest cs) :=
  match cs with
  | [] => .error ⟨.stringEnds, 0⟩
  | c :: rest =>
    let plain (c' : Char) : Except Fault (Char × Rest (c :: rest)) := .ok (c', ⟨rest, by simp⟩)
    match c with
    | '"' => plain '"'
    | '\\' => plain '\\'
    | '/' => plain '/'
    | 'b' => plain '\x08'
    | 'f' => plain '\x0c'
    | 'n' => plain '\n'
    | 'r' => plain '\r'
    | 't' => plain '\t'
    | 'u' =>
      match hexUnit rest with
      | .error e => .error e
      | .ok (unit, ⟨rest', h⟩) =>
        if 0xdc00 ≤ unit ∧ unit ≤ 0xdfff then .error (.before .loneSurrogate rest')
        else if 0xd800 ≤ unit ∧ unit ≤ 0xdbff then
          match lowHalf unit rest' with
          | .error e => .error e
          | .ok (c', ⟨rest'', h'⟩) => .ok (c', ⟨rest'', by simp; omega⟩)
        else .ok (Char.ofNat unit, ⟨rest', by simp; omega⟩)
    | _ => .error (.at .badEscape (c :: rest))

/-- A string after its opening quote, and what is left after its closing one; `taken` holds its characters so
    far, the last one first. -/
def stringBody (taken cs : List Char) : Except Fault (String × List Char) :=
  match cs with
  | [] => .error ⟨.stringEnds, 0⟩
  | '"' :: rest => .ok (String.ofList taken.reverse, rest)
  | '\\' :: rest =>
    match escape rest with
    | .error e => .error e
    | .ok (c, ⟨rest', _⟩) => stringBody (c :: taken) rest'
  | c :: rest =>
    if c.toNat < 0x20 then .error (.before .controlCharacter rest) else stringBody (c :: taken) rest
termination_by cs.length
decreasing_by all_goals simp; try omega

theorem stringBody_rest_le {taken cs : List Char} {s : String} {rest : List Char}
    (h : stringBody taken cs = .ok (s, rest)) : rest.length ≤ cs.length := by
  fun_induction stringBody taken cs with
  | case1 => cases h
  | case2 taken rest' => cases h; simp
  | case3 taken rest' e he => cases h
  | case4 taken rest' c rest'' hle he ih => have := ih h; simp; omega
  | case5 taken c rest' _ _ hc => cases h
  | case6 taken c rest' _ _ hc ih => have := ih h; simp; omega

/-! ### Numbers -/

def digitValue (c : Char) : Nat := c.toNat - '0'.toNat

/-- The digits at the start of a text. -/
def leadingDigits (cs : List Char) : List Char × Rest cs :=
  (cs.takeWhile Char.isDigit, ⟨cs.dropWhile Char.isDigit, length_dropWhile_le _ _⟩)

/-- The number that `ds` goes on, as long as it fits into 64 bits, and the digits that do not fit. -/
def significand (n : Nat) : List Char → Nat × List Char
  | [] => (n, [])
  | d :: ds => if n * 10 + digitValue d < Nat.pow 2 64 then significand (n * 10 + digitValue d) ds else (n, d :: ds)

/-- The exponent that `ds` goes on, or the digits after the one by which it leaves 32 bits. -/
def exponentValue (n : Nat) : List Char → Except (List Char) Nat
  | [] => .ok n
  | d :: ds => if n * 10 + digitValue d < Nat.pow 2 31 then exponentValue (n * 10 + digitValue d) ds else .error ds

/-- A number with a fraction, an exponent or too many digits. -/
def realNumber (negative : Bool) (digits : Nat) (power : Int) (rest : List Char) : Except Fault Number :=
  match Binary64.scaled digits power with
  | some x => .ok (.real (.ofMagnitude negative x))
  | none => .error (.before .numberTooLarge rest)

/-- A number written without fraction and exponent. -/
def wholeNumber (negative : Bool) (n : Nat) (rest : List Char) : Except Fault Number :=
  if !negative then .ok (.integer n)
  else if 0 < n ∧ n ≤ Nat.pow 2 63 then .ok (.integer (-n))
  else realNumber true n 0 rest

/-- What follows the letter of an exponent. -/
def exponentPart (negative : Bool) (digits : Nat) (power : Int) (cs : List Char) :
    Except Fault (Number × Rest cs) :=
  let (down, ⟨unsigned, hu⟩) : Bool × Rest cs :=
    match cs with
    | '+' :: rest => (false, ⟨rest, by simp⟩)
    | '-' :: rest => (true, ⟨rest, by simp⟩)
    | rest => (false, .whole rest)
  match unsigned, hu with
  | [], _ => .error ⟨.valueEnds, 0⟩
  | c :: rest, hu =>
    if c.isDigit then
      let (ds, ⟨rest', h⟩) := leadingDigits rest
      let number : Except Fault Number :=
        match exponentValue 0 (c :: ds) with
        | .ok n => realNumber negative digits (if down then power - n else power + n) rest'
        | .error later =>
          if digits ≠ 0 ∧ !down then .error (.before .numberTooLarge (later ++ rest'))
          else .ok (.real (.ofMagnitude negative Binary64.zero))
      match number with
      | .error e => .error e
      | .ok x => .ok (x, ⟨rest', by simp at hu; omega⟩)
    else .error (.at .badNumber (c :: rest))

/-- What follows the point of a number. -/
def fractionPart (negative : Bool) (digits : Nat) (power : Int) (cs : List Char) :
    Except Fault (Number × Rest cs) :=
  let (ds, ⟨rest, h⟩) := leadingDigits cs
  if ds.isEmpty then
    .error (.at (if rest.isEmpty then .valueEnds else .badNumber) rest)
  else
    let (digits, unused) := significand digits ds
    let power := power - (ds.length - unused.length : Nat)
    match rest, h with
    | 'e' :: rest', h | 'E' :: rest', h =>
      match exponentPart negative digits power rest' with
      | .error e => .error e
      | .ok (x, ⟨rest'', h'⟩) => .ok (x, ⟨rest'', by simp at h; omega⟩)
    | rest, h =>
      match realNumber negative digits power rest with
      | .error e => .error e
      | .ok x => .ok (x, ⟨rest, h⟩)

/-- What follows the digits of the whole part, whose last `dropped` digits did not fit. -/
def afterWhole (negative : Bool) (digits dropped : Nat) (cs : List Char) : Except Fault (Number × Rest cs) :=
  match cs with
  | '.' :: rest =>
    match fractionPart negative digits dropped rest with
    | .error e => .error e
    | .ok (x, ⟨rest', h⟩) => .ok (x, ⟨rest', by simp; omega⟩)
  | 'e' :: rest | 'E' :: rest =>
    match exponentPart negative digits dropped rest with
    | .error e => .error e
    | .ok (x, ⟨rest', h⟩) => .ok (x, ⟨rest', by simp; omega⟩)
  | rest =>
    match (if dropped = 0 then wholeNumber negative digits rest else realNumber negative digits dropped rest) with
    | .error e => .error e
    | .ok x => .ok (x, .whole rest)

/-- A number whose first digit is `c`. -/
def numberFrom (negative : Bool) (c : Char) (cs : List Char) : Except Fault (Number × Rest cs) :=
  if c = '0' ∧ cs.head?.any Char.isDigit then .error (.at .badNumber cs)
  else if c.isDigit then
    let (ds, ⟨rest, h⟩) := leadingDigits cs
    let (digits, dropped) := significand 0 (c :: ds)
    match afterWhole negative digits dropped.length rest with
    | .error e => .error e
    | .ok (x, ⟨rest', h'⟩) => .ok (x, ⟨rest', Nat.le_trans h' h⟩)
  else .error (.at .badNumber (c :: cs))

/-- A number after its minus sign. -/
def negativeNumber (cs : List Char) : Except Fault (Number × Rest cs) :=
  match cs with
  | [] => .error ⟨.valueEnds, 0⟩
  | c :: rest =>
    match numberFrom true c rest with
    | .error e => .error e
    | .ok (x, ⟨rest', h⟩) => .ok (x, ⟨rest', by simp; omega⟩)

/-! ### Words and signs -/

/-- The rest of a word whose first letter has been read. -/
def wordRest (letters : List Char) (cs : List Char) : Except Fault (Rest cs) :=
  match letters, cs with
  | [], cs => .ok (.whole cs)
  | _ :: _, [] => .error ⟨.valueEnds, 0⟩
  | l :: ls, c :: rest =>
    if c = l then
      match wordRest ls rest with
      | .error e => .error e
      | .ok ⟨rest', h⟩ => .ok ⟨rest', by simp; omega⟩
    else .error (.at .wordExpected (c :: rest))

inductive Lexeme where
  | openArray
  | closeArray
  | openObject
  | closeObject
  | comma
  | colon
  | text (value : String)
  | scalar (value : Json)
  | brokenText (fault : Fault)
  | brokenScalar (fault : Fault)
  | stray

/-- The lexeme at the start of `c :: cs`, and what is left after it. -/
def lexeme (c : Char) (cs : List Char) : Lexeme × Rest cs :=
  let sign (l : Lexeme) : Lexeme × Rest cs := (l, .whole cs)
  let word (letters : List Char) (value : Json) : Lexeme × Rest cs :=
    match wordRest letters cs with
    | .error e => (.brokenScalar e, .nothing cs)
    | .ok rest => (.scalar value, rest)
  let number (r : Except Fault (Number × Rest cs)) : Lexeme × Rest cs :=
    match r with
    | .error e => (.brokenScalar e, .nothing cs)
    | .ok (x, rest) => (.scalar (.number x), rest)
  match c with
  | '[' => sign .openArray
  | ']' => sign .closeArray
  | '\x7b' => sign .openObject
  | '\x7d' => sign .closeObject
  | ',' => sign .comma
  | ':' => sign .colon
  | '"' =>
    match h : stringBody [] cs with
    | .error e => (.brokenText e, .nothing cs)
    | .ok (s, rest) => (.text s, ⟨rest, stringBody_rest_le h⟩)
  | 't' => word ['r', 'u', 'e'] (.bool true)
  | 'f' => word ['a', 'l', 's', 'e'] (.bool false)
  | 'n' => word ['u', 'l', 'l'] .null
  | '-' => number (negativeNumber cs)
  | c => if c.isDigit then number (numberFrom false c cs) else sign .stray

end Typewright.Json
