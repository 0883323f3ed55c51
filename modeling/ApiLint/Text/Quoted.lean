import ApiLint.Text.Invisible

/-!
# Quoted text

A text between quotes as a summary shows it, so that each of its characters can be seen.

## Main definitions

* `Text.quoted`: a text between quotes.
-/

namespace ApiLint.Text

/-- How a character is shown between quotes: the quote, the backslash and four control characters
after a backslash, an invisible one by its number, and any other as it is. -/
def showChar (c : Char) : List Char :=
  if c = '"' then ['\\', '"']
  else if c = '\\' then ['\\', '\\']
  else if c = '\n' then ['\\', 'n']
  else if c = '\r' then ['\\', 'r']
  else if c = '\t' then ['\\', 't']
  else if c.toNat = 0 then ['\\', '0']
  else if isInvisible c then
    ['\\', 'u', '\x7b'] ++ Nat.toDigits 16 c.toNat ++ ['\x7d']
  else [c]

/-- A text between quotes. -/
def quoted (s : String) : String :=
  "\"" ++ String.ofList (s.toList.flatMap showChar) ++ "\""

end ApiLint.Text
