import Typewright.Source.Identifier
import Typewright.Text.Hex

/-!
# Extent of literals

`literal` finds where a literal of the generated language ends: a string, a byte string or a string for foreign
code, each also in its raw form, a character, a byte or a number. What the literal means is not looked at, but a
malformed one is no literal. Quoted literals are followed one character at a time by a small machine (`follow`);
every literal may have a word for a suffix.
-/

namespace Typewright.Source

open Text

/-- What follows from one more character. -/
inductive Verdict (σ : Type) where
  | go (state : σ)
  /-- The literal ends with this character. -/
  | close
  | refuse

/-- What follows the literal that a machine reads from `state` on. -/
def follow {σ : Type} (step : σ → Char → Verdict σ) (state : σ) : (cs : List Char) → Option (Rest cs)
  | [] => none
  | c :: cs =>
    match step state c with
    | .go state => (follow step state cs).map (.behind c)
    | .close => some ((Rest.whole cs).behind c)
    | .refuse => none

/-! ### Quoted literals with escapes -/

/-- What a literal holds. -/
inductive Contents where
  | text
  | bytes
  /-- Text for foreign code, which the null character would end. -/
  | foreign
  deriving DecidableEq, Repr

namespace Contents

/-- Whether a character may stand for itself. -/
def allows : Contents → Char → Bool
  | .text, _ => true
  | .bytes, c => isAscii c
  | .foreign, c => c != '\x00'

/-- Whether two digits may follow `\x`. -/
def allowsHex : Contents → Char → Char → Bool
  | .text, a, b => '0' ≤ a && a ≤ '7' && (hexDigit? b).isSome
  | .bytes, a, b => (hexDigit? a).isSome && (hexDigit? b).isSome
  | .foreign, a, b => (hexDigit? a).isSome && (hexDigit? b).isSome && !(a == '0' && b == '0')

/-- Whether a character may be written by its number. -/
def allowsNumber : Contents → Nat → Bool
  | .text, n => decide n.isValidChar
  | .bytes, _ => false
  | .foreign, n => decide n.isValidChar && n != 0

end Contents

/-- Where the reading of a quoted literal stands. -/
inductive QuoteState where
  | inside
  /-- Behind a carriage return, which only a line feed may follow. -/
  | ret
  | escape
  | hex (first : Option Char)
  /-- Behind `\u`. -/
  | brace
  /-- In the braces, with the count and the value of the digits so far. -/
  | number (count value : Nat)
  /-- In the blanks that a backslash at the end of a line takes away. -/
  | lineEnd
  /-- The same, behind a carriage return. -/
  | lineRet
  /-- Behind the only character of a character literal. -/
  | last

/-- Whether a literal is a whole text between double quotes or one character between single quotes. -/
inductive Extent where
  | text
  | single
  deriving DecidableEq, Repr

/-- The state behind an escape. -/
def Extent.resume : Extent → QuoteState
  | .text => .inside
  | .single => .last

/-- A character that is not part of an escape. -/
def plainStep (contents : Contents) (extent : Extent) (c : Char) : Verdict QuoteState :=
  match extent with
  | .single => if c = '\\' then .go .escape else if contents.allows c then .go .last else .refuse
  | .text =>
    match c with
    | '"' => .close
    | '\r' => .go .ret
    | '\\' => .go .escape
    | c => if contents.allows c then .go .inside else .refuse

/-- The character behind a backslash. -/
def escapeStep (contents : Contents) (extent : Extent) (c : Char) : Verdict QuoteState :=
  match c with
  | 'x' => .go (.hex none)
  | 'n' | 'r' | 't' | '\\' | '\'' | '"' => .go extent.resume
  | '0' => if contents = .foreign then .refuse else .go extent.resume
  | 'u' => if contents = .bytes then .refuse else .go .brace
  | '\n' => if extent = .text then .go .lineEnd else .refuse
  | '\r' => if extent = .text then .go .lineRet else .refuse
  | _ => .refuse

/-- A character of a number in braces, which has up to six digits and may have underscores behind the first. -/
def numberStep (contents : Contents) (extent : Extent) (count value : Nat) (c : Char) : Verdict QuoteState :=
  match c, hexDigit? c with
  | '_', _ => if count = 0 then .refuse else .go (.number count value)
  | '\x7d', _ => if count ≠ 0 ∧ contents.allowsNumber value then .go extent.resume else .refuse
  | _, some d => if count < 6 then .go (.number (count + 1) (value * 16 + d)) else .refuse
  | _, none => .refuse

def quoteStep (contents : Contents) (extent : Extent) (state : QuoteState) (c : Char) : Verdict QuoteState :=
  match state with
  | .inside => plainStep contents extent c
  | .ret => if c = '\n' then .go .inside else .refuse
  | .escape => escapeStep contents extent c
  | .hex none => .go (.hex (some c))
  | .hex (some a) => if contents.allowsHex a c then .go extent.resume else .refuse
  | .brace => if c = '\x7b' then .go (.number 0 0) else .refuse
  | .number count value => numberStep contents extent count value c
  | .lineEnd =>
    if c = ' ' ∨ c = '\t' ∨ c = '\n' then .go .lineEnd
    else if c = '\r' then .go .lineRet
    else plainStep contents extent c
  | .lineRet => if c = '\n' then .go .lineEnd else .refuse
  | .last => if c = '\'' then .close else .refuse

/-! ### Raw literals -/

/-- Where the reading of a raw literal stands; `marks` is the number of `#` around its quotes. -/
inductive RawState where
  | opening (marks : Nat)
  | inside (marks : Nat)
  | ret (marks : Nat)
  /-- Behind a quote that closes the literal if `missing` more marks follow. -/
  | closing (marks missing : Nat)

def rawPlainStep (contents : Contents) (marks : Nat) (c : Char) : Verdict RawState :=
  match c with
  | '"' => if marks = 0 then .close else .go (.closing marks marks)
  | '\r' => .go (.ret marks)
  | c => if contents.allows c then .go (.inside marks) else .refuse

def rawStep (contents : Contents) (state : RawState) (c : Char) : Verdict RawState :=
  match state with
  | .opening marks =>
    if c = '#' then .go (.opening (marks + 1))
    else if c = '"' ∧ marks ≤ 255 then .go (.inside marks)
    else .refuse
  | .inside marks => rawPlainStep contents marks c
  | .ret marks => if c = '\n' then .go (.inside marks) else .refuse
  | .closing marks missing =>
    if c = '#' then if missing ≤ 1 then .close else .go (.closing marks (missing - 1))
    else rawPlainStep contents marks c

/-! ### Numbers -/

def isDigitOrGap (c : Char) : Bool := c.isDigit || c == '_'

/-- What follows the digits of an exponent, behind its `e`. -/
def exponent (cs : List Char) : Option (Rest cs) :=
  let gap := Rest.dropWhile (· == '_') cs
  let signed : Rest gap.1 :=
    match gap.1 with
    | '+' :: cs | '-' :: cs => (Rest.whole cs).behind _
    | cs => .whole cs
  if (signed.1.takeWhile isDigitOrGap).any Char.isDigit then
    some ((gap.trans signed).trans (.dropWhile isDigitOrGap signed.1))
  else none

/-- What follows a number with a fraction or an exponent, of which the first digit has been read. -/
def fractional (cs : List Char) : Option (Rest cs) :=
  let whole := Rest.dropWhile isDigitOrGap cs
  let r : Option (Rest whole.1) :=
    match whole.1 with
    | '.' :: cs =>
      if cs.head?.any fun c => c == '.' || isIdentifierStart c then none
      else
        let part := Rest.dropWhile isDigitOrGap cs
        let r : Rest part.1 :=
          match part.1 with
          | 'e' :: cs | 'E' :: cs =>
            match exponent cs with
            | some r => r.behind _
            | none => .whole _
          | cs => .whole cs
        some ((part.trans r).behind '.')
    | 'e' :: cs | 'E' :: cs => (exponent cs).map (.behind _)
    | _ => none
  r.map whole.trans

/-- What follows the digits of a number in base `base`, behind the mark of the base. -/
def inBase (base : Nat) (cs : List Char) : Option (Rest cs) :=
  let isPart (c : Char) : Bool := isDigitOrGap c || (base == 16 && (hexDigit? c).isSome)
  let digits := (cs.takeWhile isPart).filter (· != '_')
  if digits.isEmpty || digits.any fun c => (hexDigit? c).any (base ≤ ·) then none
  else some (.dropWhile isPart cs)

/-- What follows a whole number whose first digit is `c`. -/
def whole (c : Char) (cs : List Char) : Option (Rest cs) :=
  match c, cs with
  | '0', 'x' :: cs => (inBase 16 cs).map (.behind _)
  | '0', 'o' :: cs => (inBase 8 cs).map (.behind _)
  | '0', 'b' :: cs => (inBase 2 cs).map (.behind _)
  | _, cs => some (.dropWhile isDigitOrGap cs)

/-- What follows the suffix of a literal. -/
def suffix (cs : List Char) : Rest cs :=
  match cs with
  | [] => .whole []
  | c :: cs =>
    match word? c cs with
    | some (_, rest) => rest.behind c
    | none => .whole (c :: cs)

/-- What follows the suffix of a number, which must not go on like a word. -/
def numberEnd {cs : List Char} (r : Rest cs) : Option (Rest cs) :=
  let rest := r.trans (suffix r.1)
  if rest.1.head?.any isIdentifierContinue then none else some rest

def number (c : Char) (cs : List Char) : Option (Rest cs) :=
  if c.isDigit then ((fractional cs).bind numberEnd).or ((whole c cs).bind numberEnd) else none

/-! ### All literals -/

def cooked (contents : Contents) (extent : Extent) (cs : List Char) : Option (Rest cs) :=
  (follow (quoteStep contents extent) .inside cs).map fun r => r.trans (suffix r.1)

def raw (contents : Contents) (cs : List Char) : Option (Rest cs) :=
  (follow (rawStep contents) (.opening 0) cs).map fun r => r.trans (suffix r.1)

/-- What follows the literal that starts with `c`. -/
def literal (c : Char) (cs : List Char) : Option (Rest cs) :=
  match c, cs with
  | '"', cs => cooked .text .text cs
  | '\'', cs => cooked .text .single cs
  | 'b', '"' :: cs => (cooked .bytes .text cs).map (.behind _)
  | 'b', '\'' :: cs => (cooked .bytes .single cs).map (.behind _)
  | 'c', '"' :: cs => (cooked .foreign .text cs).map (.behind _)
  | 'b', 'r' :: cs => (raw .bytes cs).map (.behind _)
  | 'c', 'r' :: cs => (raw .foreign cs).map (.behind _)
  | 'r', cs => raw .text cs
  | c, cs => number c cs

end Typewright.Source
