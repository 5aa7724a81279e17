import PagePress.Text.Unprintable

/-!
# Quoted text

How messages show a text or a character: in quotes, with a backslash before what could be mistaken,
and with numbers for what does not show.
-/
namespace PagePress.Text

/-- The number of a character in lower-case hexadecimal digits. -/
def hexNumber (c : Char) : String := String.ofList (Nat.toDigits 16 c.toNat)

/-- A character inside quotes of the given kind. -/
def quotedChar (quote c : Char) : String :=
  if c == quote || c == '\\' then String.ofList ['\\', c]
  else if c == '\n' then "\\n"
  else if c == '\r' then "\\r"
  else if c == '\t' then "\\t"
  else if c == '\x00' then "\\0"
  else if isUnprintable c then "\\u\x7b" ++ hexNumber c ++ "\x7d"
  else c.toString

/-- A text in double quotes. -/
def quoted (s : String) : String :=
  "\"" ++ String.join (s.toList.map (quotedChar '\x22')) ++ "\""

/-- A character in single quotes. -/
def quotedMark (c : Char) : String := "'" ++ quotedChar '\x27' c ++ "'"

end PagePress.Text
