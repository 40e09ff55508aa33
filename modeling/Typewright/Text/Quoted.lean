import Typewright.Text.Printable

/-!
# Quoted texts

A quoted text stands between double quotes. A double quote, a backslash and the three common control characters
have short escapes, any other character that is not printable is written by its number in braces, and a single
quote stays as it is. `quoted` is the form for messages; `literal` is the form for source text, where the escape
of the null character must not swallow a digit that follows it.
-/

namespace Typewright.Text

/-- A character inside quotes; the null character is left to the caller. -/
def escapeChar (c : Char) : List Char :=
  match c with
  | '\t' => ['\\', 't']
  | '\r' => ['\\', 'r']
  | '\n' => ['\\', 'n']
  | '\\' => ['\\', '\\']
  | '"' => ['\\', '"']
  | c =>
    if isPrintable c then [c]
    else ['\\', 'u', '\x7b'] ++ Nat.toDigits 16 c.toNat ++ ['\x7d']

/-- The null character before the characters `rest` in source text. -/
def escapeNull (rest : List Char) : List Char :=
  if rest.head?.any (fun c => '0' ≤ c && c ≤ '7') then ['\\', 'x', '0', '0'] else ['\\', '0']

def escapeAll (null : List Char → List Char) : List Char → List Char
  | [] => []
  | c :: rest => (if c = '\x00' then null rest else escapeChar c) ++ escapeAll null rest

/-- `s` in double quotes, for a message. -/
def quoted (s : String) : String :=
  String.ofList ('"' :: escapeAll (fun _ => ['\\', '0']) s.toList ++ ['"'])

/-- `s` as a string literal of the generated language. -/
def literal (s : String) : String := String.ofList ('"' :: escapeAll escapeNull s.toList ++ ['"'])

end Typewright.Text
