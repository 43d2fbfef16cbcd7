import MarkupSpec.Text.Printable

/-!
# Quoted text

A quoted text stands between two equal quotes, the single quote unless the text
has a single quote and no double one.  Inside, the backslash and the quote in
use are written after a backslash, line feed, carriage return and tab as the
letters `n`, `r` and `t` after a backslash, and every other character that does
not show as itself as its code point in hexadecimal, in the shortest of the
forms `\xhh`, `\uhhhh` and `\Uhhhhhhhh` that holds it.

Byte strings are quoted by the same rule, each byte as the character of its
number, with the ASCII characters as the only ones that show.  In those that can
be changed a single quote is escaped also between double quotes.
-/

namespace MarkupSpec.Text

/-- The single quote. -/
def singleQuote : Char := '\x27'

/-- The double quote. -/
def doubleQuote : Char := '\x22'

/-- The lower case hexadecimal digit of a number below sixteen. -/
def hexDigit (n : Nat) : Char :=
  if n < 10 then Char.ofNat (48 + n) else Char.ofNat (87 + n)

/-- The last `width` hexadecimal digits of a number. -/
def hexDigits : Nat → Nat → List Char
  | 0, _ => []
  | width + 1, n => hexDigits width (n / 16) ++ [hexDigit (n % 16)]
termination_by structural width => width

@[simp]
theorem length_hexDigits (width n : Nat) : (hexDigits width n).length = width := by
  induction width generalizing n with
  | zero => rfl
  | succ width ih => simp [hexDigits, ih]

/-- A character that does not show, by its code point. -/
def escapeCode (code : Nat) : List Char :=
  if code ≤ 0xff then '\\' :: 'x' :: hexDigits 2 code
  else if code ≤ 0xffff then '\\' :: 'u' :: hexDigits 4 code
  else '\\' :: 'U' :: hexDigits 8 code

/-- The characters that stand for one character where a quote is escaped. -/
def escapeChar (shows : Char → Bool) (quote c : Char) : List Char :=
  if c = '\\' || c = quote then ['\\', c]
  else if c = '\n' then ['\\', 'n']
  else if c = '\r' then ['\\', 'r']
  else if c = '\t' then ['\\', 't']
  else if shows c then [c]
  else escapeCode c.toNat

/-- The quote to put around a text. -/
def quoteFor (chars : List Char) : Char :=
  if chars.contains singleQuote && !chars.contains doubleQuote then doubleQuote else singleQuote

/-- The text between its quotes, with one quote escaped inside. -/
def quoteWith (shows : Char → Bool) (escaped : Char) (chars : List Char) : String :=
  let quote := quoteFor chars
  String.ofList (quote :: chars.flatMap (escapeChar shows escaped) ++ [quote])

/-- A text as it is quoted. -/
def quoted (text : String) : String :=
  quoteWith isPrintable (quoteFor text.toList) text.toList

/-- Does a character of ASCII show as itself? -/
def showsInBytes (c : Char) : Bool := 0x20 ≤ c.toNat && c.toNat ≤ 0x7e

/-- A byte string as it is quoted, without the letter that marks it.  One that
can be changed has every single quote escaped. -/
def quotedBytes (isMutable : Bool) (bytes : List Nat) : String :=
  let chars := bytes.map Char.ofNat
  quoteWith showsInBytes (if isMutable then singleQuote else quoteFor chars) chars

/-! ## Examples -/

example : quoted "it" = "\x27it\x27" := by decide
example : quoted "it\x27s" = "\x22it\x27s\x22" := by decide
example : quoted "\x27\x22\\\n" = "\x27\\\x27\x22\\\\\\n\x27" := by decide
example : quoted "\x01" = "\x27\\x01\x27" := by decide
example : quotedBytes false [104, 39, 0] = "\x22h\x27\\x00\x22" := by decide
example : quotedBytes true [104, 39] = "\x22h\\\x27\x22" := by decide

end MarkupSpec.Text
