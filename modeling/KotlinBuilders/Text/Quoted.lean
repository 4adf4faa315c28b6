import KotlinBuilders.Text.Printable

/-!
# Texts quoted in a message

A message shows a text between quotation marks.  The marks, the backslash and
the common controls are written with a backslash, and every other character that
cannot be shown as it is by its code point.
-/

namespace KotlinBuilders.Text

/-- A code point in lowercase hexadecimal digits. -/
def hexadecimal (code : Nat) : String := String.ofList (Nat.toDigits 16 code)

/-- How a character stands between quotation marks. -/
def quotedChar (c : Char) : String :=
  if c = '"' then "\\\""
  else if c = '\\' then "\\\\"
  else if c = '\n' then "\\n"
  else if c = '\r' then "\\r"
  else if c = '\t' then "\\t"
  else if c.toNat = 0 then "\\0"
  else if isPrintable c then c.toString
  else "\\u\x7b" ++ hexadecimal c.toNat ++ "\x7d"

/-- A text between quotation marks. -/
def quoted (text : String) : String :=
  "\"" ++ String.join (text.toList.map quotedChar) ++ "\""

end KotlinBuilders.Text
