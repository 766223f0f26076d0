import Adventure.Text.HiddenTable
import Adventure.Text.Ranges

/-!
# Quotations in messages

A message shows a text between double quotes.  Quotes, backslashes and line ends are escaped, and
the characters that would not show are written by their number.

## Main definitions

* `quoteChar`: how a quotation writes a character.
* `quoted`: the quotation of a text.
-/

namespace Adventure.Text

/-- The digits of a number in base 16, in lower case. -/
def hexDigits (n : Nat) : String := .ofList (Nat.toDigits 16 n)

/-- How a quotation writes a character. -/
def quoteChar (c : Char) : String :=
  if c = '"' then "\\\""
  else if c = '\\' then "\\\\"
  else if c = '\n' then "\\n"
  else if c = '\r' then "\\r"
  else if c = '\t' then "\\t"
  else if c.toNat = 0 then "\\0"
  else if inRanges hiddenRanges c then "\\u\x7b" ++ hexDigits c.toNat ++ "\x7d"
  else c.toString

/-- The quotation of a text. -/
def quoted (s : String) : String := "\"" ++ String.join (s.toList.map quoteChar) ++ "\""

end Adventure.Text
