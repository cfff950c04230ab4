import LinearModel.Text.CharTable

/-!
# Quoted text

Strings and characters between quotes. The quote in use, the backslash and the usual controls are
written behind a backslash; a character that could not be seen, or that would join the one before
it, is written by its number.
-/

namespace LinearModel.Text

/-- Seen and standing on its own. -/
def isVisible (c : Char) : Bool :=
  !(CharTable.mem CharTable.unseen c || CharTable.mem CharTable.extending c)

def byNumber (c : Char) : String :=
  "\\u\x7b" ++ String.ofList (Nat.toDigits 16 c.toNat) ++ "\x7d"

def escape (quote c : Char) : String :=
  if c = quote || c = '\\' then String.ofList ['\\', c]
  else if c = '\n' then "\\n"
  else if c = '\r' then "\\r"
  else if c = '\t' then "\\t"
  else if c = '\x00' then "\\0"
  else if isVisible c then String.singleton c
  else byNumber c

def quoted (s : String) : String :=
  "\"" ++ String.join (s.toList.map (escape '"')) ++ "\""

def quotedChar (c : Char) : String :=
  "'" ++ escape '\'' c ++ "'"

end LinearModel.Text
