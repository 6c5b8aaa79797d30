import ObjectAssembly.Text.Hidden

/-!
# Quoted — a text between double quotes, on one line

`quoted` writes a text so that a person can read off every character of it: quotes and backslashes
are escaped, line breaks, tabs and NUL have their letters, and a character that would not show as
itself is written by its code point in hexadecimal, `\u{301}`.
-/

namespace ObjectAssembly.Text

/-- How one character stands between the quotes. -/
def quotedChar (c : Char) : List Char :=
  if c = '"' then ['\\', '"']
  else if c = '\\' then ['\\', '\\']
  else if c = '\n' then ['\\', 'n']
  else if c = '\r' then ['\\', 'r']
  else if c = '\t' then ['\\', 't']
  else if c = '\x00' then ['\\', '0']
  else if isExtender c || isHidden c then
    '\\' :: 'u' :: '{' :: Nat.toDigits 16 c.toNat ++ ['}']
  else [c]

/-- The text between double quotes. -/
def quoted (s : String) : String :=
  String.ofList ('"' :: s.toList.flatMap quotedChar ++ ['"'])

end ObjectAssembly.Text
