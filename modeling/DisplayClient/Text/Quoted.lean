import DisplayClient.Text.GraphemeExtend
import DisplayClient.Text.Unprintable

/-!
# Quoted text

Messages show foreign text in quotes, with a backslash in front of whatever
would be misread: the quote itself, the backslash, the common controls by
letter, and by number every character that cannot be printed or is drawn onto
the one before it.
-/

namespace DisplayClient.Text

/-- The character by its number, in lower-case hexadecimal digits. -/
def byNumber (c : Char) : String :=
  "\\u\x7b" ++ String.ofList (Nat.toDigits 16 c.toNat) ++ "\x7d"

/-- The spelling of one character between two `quote`s. -/
def escape (quote c : Char) : String :=
  if c = '\x00' then "\\0"
  else if c = '\t' then "\\t"
  else if c = '\r' then "\\r"
  else if c = '\n' then "\\n"
  else if c = '\\' then "\\\\"
  else if c = quote then "\\" ++ String.singleton quote
  else if isGraphemeExtend c || isUnprintable c then byNumber c
  else String.singleton c

/-- A character in single quotes. -/
def quoteChar (c : Char) : String :=
  "\x27" ++ escape '\x27' c ++ "\x27"

/-- A text in double quotes. -/
def quoteString (s : String) : String :=
  "\x22" ++ String.join (s.toList.map (escape '\x22')) ++ "\x22"

end DisplayClient.Text
