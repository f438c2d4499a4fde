import SecureShell.Text.Glyph

namespace SecureShell.Text

-- Text between quotes for a reader's eye: quotes, backslashes and whatever would not
-- be seen are written out.
def escape (char : Char) : String :=
  if char = '\x00' then "\\0"
  else if char = '\t' then "\\t"
  else if char = '\r' then "\\r"
  else if char = '\n' then "\\n"
  else if char = '"' then "\\\""
  else if char = '\\' then "\\\\"
  else if hasGlyph char then char.toString
  else "\\u\x7b" ++ String.ofList (Nat.toDigits 16 char.toNat) ++ "\x7d"

def quote (text : String) : String := "\"" ++ String.join (text.toList.map escape) ++ "\""

end SecureShell.Text
