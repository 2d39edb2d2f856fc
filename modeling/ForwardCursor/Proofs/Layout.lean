import ForwardCursor.Proofs.Splice

/-!
# Proofs/Layout — a source with each of its tokens on a line of its own

What a token was read from is more than its text: the quotes of a string and the marks of a comment
belong to it.  Put one to a line, what the tokens of a source were read from is a source again, the
*normal form* of the first.  It has the same tokens, each on its line, and it is its own normal form
(`lex_normalForm`).

A token is told by its own characters as long as a line break follows, or nothing.  So the pieces of
a source stay pieces if one line break takes the place of the spaces before each
(`Piece.fit_onLines`), whatever stood between them before.
-/

namespace ForwardCursor

namespace Token

open Input Piece

/-! ## The normal form of a source -/

/-- **What a token was read from**, if it is a token of the source. -/
def spelling? (src : Text) (t : Token) : Option String :=
  (src.slice? t.start t.stop).map Text.string

/-- What tokens were read from, in order. -/
def spellings? (src : Text) (ts : List Token) : Option (List String) := ts.mapM (spelling? src)

/-- **A source with each of its tokens on a line of its own**, if it can be read. -/
def normalForm? [Character.Classes] (src : Text) : Option String := do
  let ts ← (lex src).toOption
  let parts ← spellings? src ts
  return "\n".intercalate parts

/-- What a token is, and what it says. -/
def content (t : Token) : TokenKind × String := (t.kind, t.text)

/-- The bytes a token was read from. -/
def span (t : Token) : Nat × Nat := (t.start.toNat, t.stop.toNat)

/-- **The bytes of parts on lines of their own**, the first of which starts behind `w` bytes. -/
def lineSpans : Nat → List String → List (Nat × Nat)
  | _, [] => []
  | w, s :: ss => (w, w + s.utf8ByteSize) :: lineSpans (w + s.utf8ByteSize + 1) ss

/-- **Tokens laid out on lines of their own** — as many as before, the same in order, and each where
the part is that it was read from. -/
structure LaidOut (parts : List String) (ts us : List Token) : Prop where
  /-- They are what they were, and say what they said. -/
  content : us.map content = ts.map content
  /-- Each covers its line. -/
  span : us.map span = lineSpans 0 parts

/-! ## Pieces on lines of their own -/

namespace Piece

variable {p : Piece} {ps : List Piece} {sp r : List Char} {w : Nat}

/-- What the token of a piece is read from. -/
def spelled (p : Piece) : String := .ofList p.spelling

/-- A piece behind other spaces. -/
def behind (sp : List Char) (p : Piece) : Piece := { p with spaces := sp }

/-- **Pieces on lines of their own**, the first of them behind `sp`. -/
def onLines : List Char → List Piece → List Piece
  | _, [] => []
  | sp, p :: ps => p.behind sp :: onLines ['\n'] ps

theorem map_spelled_onLines (sp : List Char) (ps : List Piece) :
    (onLines sp ps).map spelled = ps.map spelled := by
  induction ps generalizing sp with
  | nil => rfl
  | cons p ps ih => exact congrArg (p.spelled :: ·) (ih ['\n'])

/-- **On lines of their own, pieces have the same tokens.** -/
theorem map_content_tokens_onLines (sp : List Char) (v w : Nat) (ps : List Piece) :
    (tokens v (onLines sp ps)).map content = (tokens w ps).map content := by
  induction ps generalizing sp v w with
  | nil => rfl
  | cons p ps ih => exact congrArg ((p.kind, .ofList p.text) :: ·) (ih _ _ _)

/-- **Each token covers its line.** -/
theorem map_span_tokens_onLines
    (h : w + utf8Width (charsAll (onLines sp ps)) < UInt64.size) :
    (tokens w (onLines sp ps)).map span = lineSpans (w + utf8Width sp) (ps.map spelled) := by
  induction ps generalizing sp w with
  | nil => rfl
  | cons p ps ih =>
    rw [onLines, charsAll_cons, utf8Width_append] at h
    have hchars : utf8Width (p.behind sp).chars = utf8Width sp + p.spelled.utf8ByteSize := by
      rw [spelled, utf8ByteSize_ofList]
      exact utf8Width_append ..
    have hbreak : utf8Width ['\n'] = 1 := by decide
    have hhead : span ((p.behind sp).token w) =
        (w + utf8Width sp, w + utf8Width sp + p.spelled.utf8ByteSize) := by
      rw [span, toNat_start_token (by omega), toNat_stop_token (by omega), hchars, Nat.add_assoc]
      rfl
    rw [onLines, tokens, List.map_cons, hhead, ih (by omega), hchars, hbreak, List.map_cons,
      lineSpans, ← Nat.add_assoc w]

/-- **Laid out, pieces are what they are spelled by**, a line break between them. -/
theorem charsAll_onLines_nil (ps : List Piece) :
    charsAll (onLines [] ps) = ['\n'].intercalate (ps.map spelling) := by
  induction ps with
  | nil => rfl
  | cons p ps ih =>
    cases ps with
    | nil =>
      rw [List.map_singleton, List.intercalate_singleton]
      exact List.append_nil p.spelling
    | cons q ps =>
      rw [List.map_cons, List.map_cons, List.intercalate_cons_cons, ← List.map_cons, ← ih,
        List.append_assoc]
      rfl

theorem toList_intercalate_spelled (ps : List Piece) :
    ("\n".intercalate (ps.map spelled)).toList = charsAll (onLines [] ps) := by
  have hbreak : "\n".toList = ['\n'] := by decide
  have hspelling : String.toList ∘ spelled = spelling :=
    funext fun p => String.toList_ofList
  rw [String.toList_intercalate, List.map_map, hbreak, hspelling, charsAll_onLines_nil]

/-- Behind a piece on its line there is a line break, or nothing. -/
theorem eq_of_mem_head?_onLines : ∀ y ∈ (charsAll (onLines ['\n'] ps)).head?, y = '\n' := by
  cases ps with
  | nil => exact nofun
  | cons p ps => exact fun y hy => (Option.some.inj hy).symm

/-- **Pieces that fit still fit on lines of their own.** -/
theorem fit_onLines [Character.Classes] (h : Fit ps r) (hsp : ∀ x ∈ sp, isSpace x = true) :
    Fit (onLines sp ps) [] := by
  induction h generalizing sp with
  | nil => exact .nil
  | cons _ hspells _ ih =>
    refine .cons hsp (spells_of_head? hspells ?_) (ih (List.forall_mem_singleton.mpr (by decide)))
    rw [List.append_nil]
    exact fun y hy => .inr (eq_of_mem_head?_onLines y hy)

end Piece

/-- **A text laid out on lines** comes apart into its pieces on lines. -/
theorem TakenApart.onLines [Character.Classes] {xs sp cs : List Char} {ps : List Piece}
    (h : TakenApart xs ps sp cs) : TakenApart (charsAll (onLines [] ps)) (onLines [] ps) [] [] where
  eq := (List.append_nil _).symm
  fit := fit_onLines h.fit nofun
  space := nofun
  last := .inl rfl

/-! ## What tokens were read from -/

section Spelling

variable {src : Text} {xs ys r : List Char} {ps : List Piece}

/-- **What stands between characters of a source** is a part of it. -/
theorem slice?_of_append (h : toList src = xs ++ (ys ++ r)) :
    (src.slice? (.ofNat (utf8Width xs)) (.ofNat (utf8Width (xs ++ ys)))).map Text.string =
      some (.ofList ys) := by
  have hstart : Input.start src xs.length = .ofNat (utf8Width xs) := Text.start_of_append h
  have hstop : Input.start src (xs.length + ys.length) = .ofNat (utf8Width (xs ++ ys)) := by
    rw [← List.length_append]
    exact Text.start_of_append (h.trans (List.append_assoc ..).symm)
  have hslice : src.slice? (Input.start src xs.length) (Input.start src (xs.length + ys.length)) =
      some (part src xs.length (xs.length + ys.length)) :=
    slice?_start_eq_part src (Nat.le_add_right ..)
  rw [← hstart, ← hstop, hslice, Option.map_some, string_part, left, h, List.drop_left,
    List.take_left]

/-- **The token of a piece** is read from what the piece is spelled by. -/
theorem spelling?_token {p : Piece} (h : toList src = xs ++ (p.chars ++ r)) :
    spelling? src (p.token (utf8Width xs)) = some p.spelled := by
  have hsplit : toList src = (xs ++ p.spaces) ++ (p.spelling ++ r) := by
    rw [h, chars, List.append_assoc, List.append_assoc]
  have hslice := slice?_of_append hsplit
  rw [List.append_assoc, utf8Width_append, utf8Width_append] at hslice
  exact hslice

theorem spellings?_tokens (h : toList src = xs ++ (charsAll ps ++ r)) :
    spellings? src (tokens (utf8Width xs) ps) = some (ps.map spelled) := by
  induction ps generalizing xs with
  | nil => rfl
  | cons p ps ih =>
    rw [charsAll_cons, List.append_assoc] at h
    have hrest := ih (h.trans (List.append_assoc ..).symm)
    rw [utf8Width_append] at hrest
    rw [tokens, spellings?, List.mapM_cons, spelling?_token h, ← spellings?, hrest]
    rfl

/-- **The tokens of a source** are read from what its pieces are spelled by. -/
theorem TakenApart.spellings?_eq [Character.Classes] {sp cs : List Char}
    (h : TakenApart (toList src) ps sp cs) :
    spellings? src (tokens 0 ps) = some (ps.map spelled) := by
  have hfirst : toList src = [] ++ (charsAll ps ++ (sp ++ cs)) := h.eq
  exact spellings?_tokens hfirst

end Spelling

theorem normalForm?_of_lex [Character.Classes] {src : Text} {ts : List Token}
    {parts : List String} (h : lex src = .ok ts) (hparts : spellings? src ts = some parts) :
    normalForm? src = some ("\n".intercalate parts) := by
  rw [normalForm?, h]
  change (spellings? src ts).bind _ = _
  rw [hparts]
  rfl

/-- **Laid out one to a line, the tokens of a source stay the same.**  What they were read from is
in the source, and put on lines of its own it is a source with the same tokens, each on its line;
read from there and laid out once more, it stays as it is. -/
theorem lex_normalForm [Character.Classes] {src : Text} {ts : List Token} (h : lex src = .ok ts) :
    ∃ parts, spellings? src ts = some parts ∧ normalForm? src = some ("\n".intercalate parts) ∧
      ∀ out : Text, out.string = "\n".intercalate parts →
        ∃ us, lex out = .ok us ∧ LaidOut parts ts us ∧ spellings? out us = some parts ∧
          normalForm? out = some out.string := by
  obtain ⟨ps, sp, hapart, rfl⟩ := exists_takenApart_of_lex_eq_ok h
  have hparts := hapart.spellings?_eq
  refine ⟨ps.map spelled, hparts, normalForm?_of_lex h hparts, ?_⟩
  intro out hout
  have hlist : toList out = charsAll (onLines [] ps) := by
    rw [← toList_intercalate_spelled, ← hout]
    rfl
  have hlaid : TakenApart (toList out) (onLines [] ps) [] [] := hlist ▸ hapart.onLines
  have hlex := lex_of_takenApart hlaid
  have hspellings := hlaid.spellings?_eq
  have hbytes := hlaid.utf8Width_charsAll_le
  have hsize := out.size_lt
  rw [map_spelled_onLines] at hspellings
  refine ⟨_, hlex, ⟨map_content_tokens_onLines [] 0 0 ps, map_span_tokens_onLines (by omega)⟩,
    hspellings, ?_⟩
  rw [hout]
  exact normalForm?_of_lex hlex hspellings

/-- In `²/* é*/"⏎"x9` nothing stands between the tokens, and the line break is within a string.
Laid out, they are on five lines, the string on two of them. -/
theorem lex_normalForm_adjacent :
    lex ⟨"²/* é*/\"\n\"x9", by decide⟩ = .ok [⟨.punctuation, "²", 0, 2⟩, ⟨.comment, "é", 2, 9⟩,
      ⟨.string, "\n", 9, 12⟩, ⟨.word, "x9", 12, 14⟩] ∧
    ∃ us, lex ⟨"²\n/* é*/\n\"\n\"\nx9", by decide⟩ = .ok us ∧
      LaidOut ["²", "/* é*/", "\"\n\"", "x9"] [⟨.punctuation, "²", 0, 2⟩, ⟨.comment, "é", 2, 9⟩,
        ⟨.string, "\n", 9, 12⟩, ⟨.word, "x9", 12, 14⟩] us ∧
      normalForm? ⟨"²\n/* é*/\n\"\n\"\nx9", by decide⟩ =
        some "²\n/* é*/\n\"\n\"\nx9" := by
  have h : lex ⟨"²/* é*/\"\n\"x9", by decide⟩ = .ok [⟨.punctuation, "²", 0, 2⟩,
      ⟨.comment, "é", 2, 9⟩, ⟨.string, "\n", 9, 12⟩, ⟨.word, "x9", 12, 14⟩] := by decide +kernel
  obtain ⟨parts, hparts, -, hall⟩ := lex_normalForm h
  obtain rfl : parts = ["²", "/* é*/", "\"\n\"", "x9"] :=
    Option.some.inj (hparts.symm.trans (by decide +kernel))
  obtain ⟨us, hus, hlaid, -, hform⟩ := hall ⟨"²\n/* é*/\n\"\n\"\nx9", by decide⟩ (by decide)
  exact ⟨h, us, hus, hlaid, hform⟩

end Token

end ForwardCursor
