import Provenance.Text.Visible

/-! # Quoted text

    A text between double quotes.  The quote, the backslash and four control
    characters have short escapes; any other hidden character is written by
    its code point in hexadecimal digits between braces. -/

namespace Provenance

namespace Quoted

/-- The hexadecimal digits of a code point, in lower case. -/
def hex (n : Nat) : String := String.ofList (Nat.toDigits 16 n)

/-- The written form of one character. -/
def escape (c : Char) : String :=
  if c = '"' then "\\\""
  else if c = '\\' then "\\\\"
  else if c = '\t' then "\\t"
  else if c = '\r' then "\\r"
  else if c = '\n' then "\\n"
  else if c.toNat = 0 then "\\0"
  else if isVisible c then c.toString
  else "\\u\x7b" ++ hex c.toNat ++ "\x7d"

/-- A text between quotes. -/
def encode (text : String) : String :=
  "\"" ++ String.join (text.toList.map escape) ++ "\""

end Quoted

end Provenance
