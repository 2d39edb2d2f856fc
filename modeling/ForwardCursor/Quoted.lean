import ForwardCursor.Character

/-!
# Quoted — a text between quotes, on one line

A quoted text shows each character that can be shown, and writes the others as escapes: the quote
and the backslash behind a backslash, the commonest controls by a letter, and what else is hidden by
its code point in hexadecimal.  No line break and no unescaped quote is left inside, so the end can
be told, whichever characters are hidden.
-/

namespace ForwardCursor.Quoted

variable [Character.Classes]

/-- A code point in hexadecimal, in braces. -/
def codePoint (c : Char) : List Char :=
  ['\\', 'u', '\x7b'] ++ Nat.toDigits 16 c.toNat ++ ['\x7d']

/-- **One character of a quoted text.** -/
def escape (c : Char) : List Char :=
  if c = '"' then ['\\', '"']
  else if c = '\\' then ['\\', '\\']
  else if c = '\x00' then ['\\', '0']
  else if c = '\t' then ['\\', 't']
  else if c = '\n' then ['\\', 'n']
  else if c = '\r' then ['\\', 'r']
  else if Character.isHidden c then codePoint c
  else [c]

/-- A text between quotes, as characters. -/
def chars (cs : List Char) : List Char := '"' :: (cs.flatMap escape ++ ['"'])

/-- **A text between quotes.** -/
def quote (s : String) : String := String.ofList (chars s.toList)

end ForwardCursor.Quoted
