import SqlText.Text.Printable

/-!
# Quoted literals

The **quoted literal** of a text stands between single quotes, or between double quotes when the
text holds a single quote and no double quote. Inside, the backslash and the enclosing quote are
escaped by a backslash, tab, line feed and carriage return have their letters, and every other
character that is not printable is written by its code in hexadecimal: `\xhh` below U+0100,
`\uhhhh` below U+10000, `\Uhhhhhhhh` above.
-/

namespace SqlText.Text

/-- The number in lower-case hexadecimal, filled up with zeros to the given width. -/
def hexDigits (width n : Nat) : List Char :=
  let digits := Nat.toDigits 16 n
  List.replicate (width - digits.length) '0' ++ digits

/-- The escape of a character that is not shown as itself. -/
def codeEscape (c : Char) : List Char :=
  let n := c.toNat
  if n < 0x100 then ['\\', 'x'] ++ hexDigits 2 n
  else if n < 0x10000 then ['\\', 'u'] ++ hexDigits 4 n
  else ['\\', 'U'] ++ hexDigits 8 n

/-- One character of a literal that stands between `quote`s. -/
def quoteChar (quote c : Char) : List Char :=
  if c = quote ∨ c = '\\' then ['\\', c]
  else if c = '\t' then ['\\', 't']
  else if c = '\n' then ['\\', 'n']
  else if c = '\r' then ['\\', 'r']
  else if isPrintable c then [c]
  else codeEscape c

/-- The quote a literal of the characters stands between. -/
def enclosingQuote (cs : List Char) : Char :=
  if cs.contains '\'' && !cs.contains '"' then '"' else '\''

/-- **The quoted literal of a text.** -/
def quoted (s : String) : String :=
  let quote := enclosingQuote s.toList
  String.ofList (quote :: s.toList.flatMap (quoteChar quote) ++ [quote])

/-- A text with every character beyond ASCII written by its code. -/
def asciiOnly (s : String) : String :=
  String.ofList (s.toList.flatMap fun c => if c.toNat < 0x80 then [c] else codeEscape c)

end SqlText.Text
