import ForwardCursor.Character
import ForwardCursor.Request
import ForwardCursor.Token

/-!
# Token/Lexer — reading a source into tokens

Between tokens blanks are passed over.  The next character says which kind of token starts: a letter
or `_` a word, a decimal digit a number, two slashes or a slash and a star a comment, a quote a
string; any other character is a token by itself.  What has to be closed and is not, a string or a
comment between marks, fails at the end of the source.

What is a letter and what is a numeral is for the classes of characters to say, whichever they are.
Each token takes at least one character (`behind_lexeme`), so reading comes to an end.
-/

namespace ForwardCursor

/-- **Why a source cannot be read.** -/
inductive LexError where
  /-- A closing mark that has to come is not there. -/
  | unmet (cause : Unmet)
  /-- A part was taken that is not there. -/
  | badSlice (slice : BadSlice)
  deriving Repr, DecidableEq

/-- A token just read, and the cursor behind it. -/
structure Lexeme where
  /-- What it is. -/
  kind : TokenKind
  /-- What it says. -/
  text : String
  /-- Where reading goes on. -/
  cursor : Cursor Text

/-- The token that was read from `start` on. -/
def Lexeme.token (l : Lexeme) (start : Index) : Token := ⟨l.kind, l.text, start, l.cursor.position⟩

namespace Token

/-- The characters that may stand between tokens. -/
def isSpace (x : Char) : Bool := accepts " \t\r\n" x

/-- The characters a word starts with. -/
def startsWord [Character.Classes] (x : Char) : Bool := Character.isLetter x || x == '_'

/-- The characters a word goes on with. -/
def continuesWord [Character.Classes] (x : Char) : Bool := Character.isLetterOrNumeral x || x == '_'

/-- The decimal digits. -/
def isDigit (x : Char) : Bool := accepts ('0' ...= '9') x

theorem continuesWord_of_startsWord [Character.Classes] {x : Char} (h : startsWord x = true) :
    continuesWord x = true := by
  simp only [startsWord, continuesWord, Bool.or_eq_true] at h ⊢
  exact h.imp_left Character.isLetterOrNumeral_of_isLetter

/-- A text without the blanks at its ends. -/
def trim (s : String) : String := String.ofList (Character.trimmed s.toList)

/-! ## One token of each kind -/

/-- The part a move passes, as a token whose text `read` takes from it. -/
def scanned (kind : TokenKind) (read : String → String) (c : Cursor Text) (m : Move Char) :
    Except LexError Lexeme :=
  match c.scan m with
  | .ok o => .ok ⟨kind, read o.value.string, o.cursor⟩
  | .error e => .error (.badSlice e)

/-- A word. -/
def word [Character.Classes] : Cursor Text → Except LexError Lexeme :=
  (scanned .word id · (.run (.ofFun continuesWord)))

/-- A number. -/
def number : Cursor Text → Except LexError Lexeme := (scanned .number id · (.members isDigit))

/-- A comment to the end of the line, which is left. -/
def lineComment (c : Cursor Text) : Except LexError Lexeme :=
  scanned .comment trim (c.skip (.count 2 : Move Char)).cursor (.upTo '\n')

/-- The marks a comment stands between. -/
def closeMark : List Char := ['*', '/']

/-- A comment between marks. -/
def blockComment (c : Cursor Text) : Except LexError Lexeme :=
  match scanned .comment trim (c.skip (.count 2 : Move Char)).cursor (.upToSequence closeMark) with
  | .error e => .error e
  | .ok body =>
    match body.cursor.expectSequence closeMark with
    | .error e => .error (.badSlice e)
    | .ok o =>
      match o.value with
      | .error cause => .error (.unmet cause)
      | .ok _ => .ok ⟨.comment, body.text, o.cursor⟩

/-- A string between quotes. -/
def quoted (c : Cursor Text) : Except LexError Lexeme :=
  match scanned .string id c.advance (.upTo '"') with
  | .error e => .error e
  | .ok body =>
    let o := body.cursor.expectElement '"'
    match o.value with
    | .error cause => .error (.unmet cause)
    | .ok _ => .ok ⟨.string, body.text, o.cursor⟩

/-- A character by itself. -/
def punctuation : Cursor Text → Except LexError Lexeme := (scanned .punctuation id · (.count 1))

/-- **The token that starts with `x`**, the next character. -/
def lexeme [Character.Classes] (c : Cursor Text) (x : Char) : Except LexError Lexeme :=
  if startsWord x then word c
  else if isDigit x then number c
  else if c.startsWith ['/', '/'] then lineComment c
  else if c.startsWith ['/', '*'] then blockComment c
  else if x == '"' then quoted c
  else punctuation c

/-! ## Every token takes something -/

/-- Behind a cursor, on the same source. -/
def Behind (c d : Cursor Text) : Prop := d.input = c.input ∧ c.position < d.position

theorem scanned_eq_ok {kind : TokenKind} {read : String → String} {c : Cursor Text}
    {m : Move Char} {l : Lexeme} (h : scanned kind read c m = .ok l) :
    l.cursor = (c.skip m).cursor := by
  unfold scanned at h
  split at h
  · next o ho =>
    rw [← Except.ok.inj h]
    exact Cursor.cursor_of_scan ho
  · cases h

theorem behind_scanned {kind : TokenKind} {read : String → String} {c d : Cursor Text}
    {m : Move Char} {l : Lexeme} (h : scanned kind read d m = .ok l) (hin : d.input = c.input)
    (hlt : c.position < (d.skip m).cursor.position) : Behind c l.cursor := by
  rw [Behind, scanned_eq_ok h, Cursor.input_skip]
  exact ⟨hin, hlt⟩

variable {c : Cursor Text} {x : Char} {l : Lexeme}

theorem behind_word [Character.Classes] (h : word c = .ok l) (hx : c.current? = some x)
    (hw : startsWord x = true) : Behind c l.cursor :=
  behind_scanned h rfl (Cursor.lt_position_skip_run hx (continuesWord_of_startsWord hw))

theorem behind_number (h : number c = .ok l) (hx : c.current? = some x) (hd : isDigit x = true) :
    Behind c l.cursor :=
  behind_scanned h rfl (Cursor.lt_position_skip_members hx hd)

theorem lt_position_mark (hx : c.current? = some x) :
    c.position < (c.skip (.count 2 : Move Char)).cursor.position :=
  Cursor.lt_position_skip_count hx (by decide)

theorem behind_lineComment (h : lineComment c = .ok l) (hx : c.current? = some x) :
    Behind c l.cursor :=
  behind_scanned h (Cursor.input_skip c _)
    (UInt64.lt_of_lt_of_le (lt_position_mark hx) (Cursor.le_position_skip_upTo _ _))

theorem behind_blockComment (h : blockComment c = .ok l) (hx : c.current? = some x) :
    Behind c l.cursor := by
  unfold blockComment at h
  split at h
  · cases h
  · next body hb =>
    have hbody : Behind c body.cursor := behind_scanned hb (Cursor.input_skip c _)
      (UInt64.lt_of_lt_of_le (lt_position_mark hx) (Cursor.le_position_skip_upToSequence _ _))
    split at h
    · cases h
    · next o ho =>
      have hclose := Cursor.le_position_expectSequence ho
      split at h
      · cases h
      · rw [← Except.ok.inj h]
        exact ⟨hclose.1.trans hbody.1, UInt64.lt_of_lt_of_le hbody.2 hclose.2⟩

theorem behind_quoted (h : quoted c = .ok l) (hx : c.current? = some x) : Behind c l.cursor := by
  unfold quoted at h
  split at h
  · cases h
  · next body hb =>
    have hbody : Behind c body.cursor := behind_scanned hb (Cursor.input_advance c)
      (UInt64.lt_of_lt_of_le (Cursor.lt_position_advance hx) (Cursor.le_position_skip_upTo _ _))
    simp only at h
    split at h
    · cases h
    · next y hy =>
      obtain ⟨hcur, hadv⟩ := Cursor.expectElement_eq_ok hy
      rw [← Except.ok.inj h, hadv]
      exact ⟨(Cursor.input_advance _).trans hbody.1,
        UInt64.lt_trans hbody.2 (Cursor.lt_position_advance hcur)⟩

theorem behind_punctuation (h : punctuation c = .ok l) (hx : c.current? = some x) :
    Behind c l.cursor :=
  behind_scanned h rfl (Cursor.lt_position_skip_count hx (by decide))

/-- **A token takes at least one character.** -/
theorem behind_lexeme [Character.Classes] (h : lexeme c x = .ok l) (hx : c.current? = some x) :
    Behind c l.cursor := by
  unfold lexeme at h
  split at h
  · next hw => exact behind_word h hx hw
  · split at h
    · next hd => exact behind_number h hx hd
    · split at h
      · exact behind_lineComment h hx
      · split at h
        · exact behind_blockComment h hx
        · split at h
          · exact behind_quoted h hx
          · exact behind_punctuation h hx

/-! ## All tokens -/

/-- The cursor past the characters that may stand between tokens. -/
def pastSpace (c : Cursor Text) : Cursor Text := (c.skip (.members isSpace)).cursor

theorem size_sub_lt_of_behind {c d : Cursor Text} {x : Char} (hx : (pastSpace c).current? = some x)
    (h : Behind (pastSpace c) d) :
    d.size.toNat - d.position.toNat < c.size.toNat - c.position.toNat := by
  have hin : d.size = c.size := congrArg Text.size (h.1.trans (Cursor.input_skip c _))
  have h₁ : c.position.toNat ≤ (pastSpace c).position.toNat :=
    UInt64.le_iff_toNat_le.mp (Cursor.le_position_skip_members c isSpace)
  have h₂ := UInt64.lt_iff_toNat_lt.mp h.2
  have h₃ : (pastSpace c).position.toNat < c.size.toNat :=
    UInt64.lt_iff_toNat_lt.mp (Cursor.lt_size_of_current? hx)
  rw [hin]
  omega

variable [Character.Classes]

/-- **The tokens from a cursor on.** -/
def lexFrom (c : Cursor Text) : Except LexError (List Token) :=
  match _hx : (pastSpace c).current? with
  | none => .ok []
  | some x =>
    match _hl : lexeme (pastSpace c) x with
    | .error e => .error e
    | .ok l => (lexFrom l.cursor).map (l.token (pastSpace c).position :: ·)
termination_by c.size.toNat - c.position.toNat
decreasing_by exact size_sub_lt_of_behind _hx (behind_lexeme _hl _hx)

theorem lexFrom_of_none (hx : (pastSpace c).current? = none) : lexFrom c = .ok [] := by
  rw [lexFrom]
  split
  · rfl
  · next hy => simp [hx] at hy

/-- **A token that cannot be read ends the reading.** -/
theorem lexFrom_of_error {e : LexError} (hx : (pastSpace c).current? = some x)
    (hl : lexeme (pastSpace c) x = .error e) : lexFrom c = .error e := by
  rw [lexFrom]
  split
  · next hy => simp [hx] at hy
  · next y hy =>
    obtain rfl : x = y := Option.some.inj (hx.symm.trans hy)
    split
    · next he => rw [← Except.error.inj (hl.symm.trans he)]
    · next he => simp [hl] at he

/-- **Reading goes on behind a token.** -/
theorem lexFrom_of_ok (hx : (pastSpace c).current? = some x)
    (hl : lexeme (pastSpace c) x = .ok l) :
    lexFrom c = (lexFrom l.cursor).map (l.token (pastSpace c).position :: ·) := by
  rw [lexFrom]
  split
  · next hy => simp [hx] at hy
  · next y hy =>
    obtain rfl : x = y := Option.some.inj (hx.symm.trans hy)
    split
    · next he => simp [hl] at he
    · next k he =>
      obtain rfl : l = k := Except.ok.inj (hl.symm.trans he)
      rfl

/-- **The tokens of a source.** -/
def lex (source : Text) : Except LexError (List Token) := lexFrom (.ofInput source)

end Token

end ForwardCursor
