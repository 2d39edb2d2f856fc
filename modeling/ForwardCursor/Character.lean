import ForwardCursor.Character.Tables

/-!
# Character — letters, numerals, blanks, and characters that cannot be shown

Which characters are letters, which are numerals and which cannot be shown changes as characters are
added to the Unicode standard.  So these are `Classes`: any three that have the letters and numerals
of ASCII right, which is all that is ever used of them.  The classes that are used by default are
those of the tables.  The blanks do not change, and are the ones in the table.
-/

namespace ForwardCursor.Character

/-- The letters of ASCII, `A` to `Z` and `a` to `z`. -/
def asciiLetters : List (Nat × Nat) := [(0x41, 0x5A), (0x61, 0x7A)]

/-- The numerals of ASCII, `0` to `9`. -/
def asciiNumerals : List (Nat × Nat) := [(0x30, 0x39)]

/-- **Classes of characters**, as one edition of the standard or another has them. -/
class Classes where
  /-- Whether a character is a letter. -/
  isLetter : Char → Bool
  /-- Whether a character is a numeral. -/
  isNumeral : Char → Bool
  /-- Whether a character cannot be shown by itself. -/
  isHidden : Char → Bool
  /-- Of ASCII, the letters are letters and the others are not. -/
  isLetter_ascii {c : Char} : c.toNat < 128 → isLetter c = within asciiLetters c
  /-- Of ASCII, the numerals are numerals and the others are not. -/
  isNumeral_ascii {c : Char} : c.toNat < 128 → isNumeral c = within asciiNumerals c

export Classes (isLetter isNumeral isHidden)

/-- Whether a character is a letter or a numeral. -/
def isLetterOrNumeral [Classes] (c : Char) : Bool := isLetter c || isNumeral c

theorem isLetterOrNumeral_of_isLetter [Classes] {c : Char} (h : isLetter c) :
    isLetterOrNumeral c := by
  simp [isLetterOrNumeral, h]

theorem isLetterOrNumeral_ascii [Classes] {c : Char} (h : c.toNat < 128) :
    isLetterOrNumeral c = (within asciiLetters c || within asciiNumerals c) := by
  rw [isLetterOrNumeral, Classes.isLetter_ascii h, Classes.isNumeral_ascii h]

/-! ## The classes of the tables -/

/-- **Only the ranges that start low** can hold a low character. -/
theorem within_filter {table : List (Nat × Nat)} {c : Char} {n : Nat} (h : c.toNat < n) :
    within (table.filter (·.1 < n)) c = within table c := by
  rw [within, List.any_filter, within]
  congr 1
  funext p
  by_cases hlow : p.1 ≤ c.toNat
  · simp [hlow, Nat.lt_of_le_of_lt hlow h]
  · simp [hlow]

/-- The classes of the tables. -/
instance unicode : Classes where
  isLetter := within letters
  isNumeral := within numerals
  isHidden := within hiddens
  isLetter_ascii h := by
    have hlow : letters.filter (·.1 < 128) = asciiLetters := by decide +kernel
    rw [← within_filter h, hlow]
  isNumeral_ascii h := by
    have hlow : numerals.filter (·.1 < 128) = asciiNumerals := by decide +kernel
    rw [← within_filter h, hlow]

/-! ## Blanks -/

/-- Whether a character is white space. -/
def isBlank (c : Char) : Bool := within blanks c

/-- A text without the blanks at its ends. -/
def trimmed (cs : List Char) : List Char :=
  ((cs.dropWhile isBlank).reverse.dropWhile isBlank).reverse

end ForwardCursor.Character
