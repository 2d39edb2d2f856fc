import ForwardCursor.Proofs.Grammar

/-!
# Proofs/Piece — a source taken apart, wherever it stands

A `Piece` is a token with the spaces before it, by its characters alone.  Every source comes apart
into pieces, spaces, and nothing or else what is opened and not closed (`exists_takenApart`).  How
it comes apart says all that reading it comes to: the tokens of the pieces (`lex_of_takenApart`), or
the end of the source as what was not expected (`lex_of_unclosed`).

No piece knows its place, and `Fit` asks of what follows a piece only its next character.  So pieces
can be cut off, moved, and put behind others, and stay what they are.
-/

namespace ForwardCursor

namespace Token

open Cursor Input

/-- **A token with the spaces before it.** -/
structure Piece where
  /-- The spaces. -/
  spaces : List Char
  /-- The characters of the token. -/
  spelling : List Char
  /-- What the token is. -/
  kind : TokenKind
  /-- What it says. -/
  text : List Char

namespace Piece

/-- The characters of a piece. -/
def chars (p : Piece) : List Char := p.spaces ++ p.spelling

/-- The characters of pieces, one after the other. -/
def charsAll (ps : List Piece) : List Char := ps.flatMap chars

/-- **The token of a piece** that starts behind `w` bytes. -/
def token (p : Piece) (w : Nat) : Token :=
  ⟨p.kind, .ofList p.text, .ofNat (w + utf8Width p.spaces), .ofNat (w + utf8Width p.chars)⟩

/-- **The tokens of pieces** that start behind `w` bytes. -/
def tokens : Nat → List Piece → List Token
  | _, [] => []
  | w, p :: ps => p.token w :: tokens (w + utf8Width p.chars) ps

/-- **Pieces that fit**, before the characters `r` — each is spaces and what spells its token,
followed as it is. -/
inductive Fit [Character.Classes] : List Piece → List Char → Prop
  /-- No pieces. -/
  | nil {r : List Char} : Fit [] r
  /-- A piece before others. -/
  | cons {p : Piece} {ps : List Piece} {r : List Char} : (∀ x ∈ p.spaces, isSpace x = true) →
    Spells p.kind p.spelling (charsAll ps ++ r) p.text → Fit ps r → Fit (p :: ps) r

end Piece

/-- **What is opened and not closed**, a string or a comment between marks. -/
inductive Unclosed : List Char → Prop
  /-- A string without the quote that closes it. -/
  | string {s : List Char} : '"' ∉ s → Unclosed ('"' :: s)
  /-- A comment without the mark that closes it. -/
  | comment {s : List Char} : ¬ closeMark <:+: s → Unclosed ('/' :: '*' :: s)

/-- **A text taken apart** — pieces, spaces `sp`, and `cs`, nothing or what is not closed. -/
structure TakenApart [Character.Classes] (xs : List Char) (ps : List Piece)
    (sp cs : List Char) : Prop where
  /-- These are all its characters. -/
  eq : xs = Piece.charsAll ps ++ (sp ++ cs)
  /-- The pieces fit before what is behind them. -/
  fit : Piece.Fit ps (sp ++ cs)
  /-- The spaces are spaces. -/
  space : ∀ x ∈ sp, isSpace x = true
  /-- What comes last is nothing, or not closed. -/
  last : cs = [] ∨ Unclosed cs

/-! ## Pieces and their tokens -/

namespace Piece

variable {p : Piece} {ps qs : List Piece} {r r' : List Char}

@[simp] theorem charsAll_nil : charsAll [] = [] := rfl

@[simp] theorem charsAll_cons (p : Piece) (ps : List Piece) :
    charsAll (p :: ps) = p.chars ++ charsAll ps := List.flatMap_cons

theorem charsAll_append (ps qs : List Piece) :
    charsAll (ps ++ qs) = charsAll ps ++ charsAll qs := List.flatMap_append

theorem toNat_start_token {w : Nat} (h : w + utf8Width p.chars < UInt64.size) :
    (p.token w).start.toNat = w + utf8Width p.spaces := by
  have hspaces : utf8Width p.chars = utf8Width p.spaces + utf8Width p.spelling :=
    utf8Width_append ..
  exact Index.toNat_ofNat_of_lt (by omega)

theorem toNat_stop_token {w : Nat} (h : w + utf8Width p.chars < UInt64.size) :
    (p.token w).stop.toNat = w + utf8Width p.chars := Index.toNat_ofNat_of_lt h

theorem tokens_append (w : Nat) (ps qs : List Piece) :
    tokens w (ps ++ qs) = tokens w ps ++ tokens (w + utf8Width (charsAll ps)) qs := by
  induction ps generalizing w with
  | nil => rfl
  | cons p ps ih =>
    rw [List.cons_append, tokens, ih, tokens, List.cons_append, charsAll_cons, utf8Width_append,
      Nat.add_assoc]

theorem take_tokens (w k : Nat) (ps : List Piece) :
    (tokens w ps).take k = tokens w (ps.take k) := by
  induction k generalizing w ps with
  | zero => rfl
  | succ k ih =>
    cases ps with
    | nil => rfl
    | cons p ps => rw [tokens, List.take_succ_cons, ih, List.take_succ_cons, tokens]

theorem drop_tokens (w k : Nat) (ps : List Piece) :
    (tokens w ps).drop k = tokens (w + utf8Width (charsAll (ps.take k))) (ps.drop k) := by
  induction k generalizing w ps with
  | zero => rfl
  | succ k ih =>
    cases ps with
    | nil => rfl
    | cons p ps =>
      rw [tokens, List.drop_succ_cons, ih, List.take_succ_cons, charsAll_cons, utf8Width_append,
        Nat.add_assoc, List.drop_succ_cons]

/-- **A token stops where its piece does.** -/
theorem stop_of_getElem?_tokens {w k : Nat} {t : Token} (h : (tokens w ps)[k]? = some t) :
    t.stop = .ofNat (w + utf8Width (charsAll (ps.take (k + 1)))) := by
  induction ps generalizing w k with
  | nil => exact nomatch h
  | cons p ps ih =>
    rw [tokens] at h
    rcases k with _ | k
    · rw [List.take_succ_cons, List.take_zero, charsAll_cons, charsAll_nil, List.append_nil]
      exact congrArg Token.stop (Option.some.inj h).symm
    · rw [List.take_succ_cons, charsAll_cons, utf8Width_append, ← Nat.add_assoc]
      exact ih h

/-! ## What follows pieces -/

theorem head?_append_of_head? {xs : List Char} (hr : ∀ y ∈ r'.head?, y ∈ r.head? ∨ y = '\n') :
    ∀ y ∈ (xs ++ r').head?, y ∈ (xs ++ r).head? ∨ y = '\n' := by
  cases xs with
  | nil => exact hr
  | cons x xs => exact fun y hy => .inl hy

variable [Character.Classes]

/-- **What follows a token matters by its first character alone**, and a line break never does. -/
theorem spells_of_head? {kind : TokenKind} {s text : List Char} (h : Spells kind s r text)
    (hr : ∀ y ∈ r'.head?, y ∈ r.head? ∨ y = '\n') : Spells kind s r' text := by
  cases h with
  | word hx hs hstop =>
    refine .word hx hs ?_
    intro y hy
    rcases hr y hy with hy | rfl
    · exact hstop y hy
    · exact continuesWord_eq_false_iff.mp continuesWord_break
  | number hne hs hstop =>
    refine .number hne hs ?_
    intro y hy
    rcases hr y hy with hy | rfl
    · exact hstop y hy
    · decide
  | string hs => exact .string hs
  | lineComment hs hstop htext =>
    refine .lineComment hs ?_ htext
    intro y hy
    exact (hr y hy).elim (hstop y) id
  | blockComment hs htext => exact .blockComment hs htext
  | punctuation hspace hword hdigit hquote hmark =>
    refine .punctuation hspace hword hdigit hquote ?_
    rintro ⟨rfl, y, hy, hslash⟩
    rcases hr y hy with hy | rfl
    · exact hmark ⟨rfl, y, hy, hslash⟩
    · exact absurd hslash (by decide)

/-- **Pieces fit before anything** that starts with the same character or a line break, and before
nothing. -/
theorem Fit.of_head? (h : Fit ps r) (hr : ∀ y ∈ r'.head?, y ∈ r.head? ∨ y = '\n') :
    Fit ps r' := by
  induction h with
  | nil => exact .nil
  | cons hspace hspells _ ih =>
    exact .cons hspace (spells_of_head? hspells (head?_append_of_head? hr)) (ih hr)

theorem fit_append_iff : Fit (ps ++ qs) r ↔ Fit ps (charsAll qs ++ r) ∧ Fit qs r := by
  induction ps with
  | nil => exact ⟨fun h => ⟨.nil, h⟩, fun h => h.2⟩
  | cons p ps ih =>
    rw [List.cons_append]
    constructor
    · rintro (_ | ⟨hspace, hspells, hfit⟩)
      obtain ⟨hps, hqs⟩ := ih.mp hfit
      rw [charsAll_append, List.append_assoc] at hspells
      exact ⟨.cons hspace hspells hps, hqs⟩
    · rintro ⟨_ | ⟨hspace, hspells, hps⟩, hqs⟩
      rw [← List.append_assoc, ← charsAll_append] at hspells
      exact .cons hspace hspells (ih.mpr ⟨hps, hqs⟩)

end Piece

/-! ## Every text comes apart -/

variable [Character.Classes]

/-- **What does not start with a space** starts with a token, or is not closed. -/
theorem exists_spells_or_unclosed {x : Char} (cs : List Char) (hx : isSpace x = false) :
    (∃ kind s r text, x :: cs = s ++ r ∧ Spells kind s r text) ∨ Unclosed (x :: cs) := by
  by_cases hword : startsWord x = true
  · exact .inl ⟨_, _, _, _, List.takeWhile_append_dropWhile.symm, spells_word hword⟩
  by_cases hdigit : isDigit x = true
  · exact .inl ⟨_, _, _, _, List.takeWhile_append_dropWhile.symm, spells_number hdigit⟩
  by_cases hquote : x = '"'
  · obtain rfl := hquote
    by_cases hmem : '"' ∈ cs
    · refine .inl ⟨_, _, _, _, ?_, spells_quoted cs⟩
      rw [List.cons_append, ← eq_takeWhile_append_quote hmem]
    · exact .inr (.string hmem)
  by_cases hmark : x = '/' ∧ ∃ y ∈ cs.head?, y = '/' ∨ y = '*'
  · obtain ⟨rfl, y, hy, hy'⟩ := hmark
    obtain ⟨ds, rfl⟩ := List.head?_eq_some_iff.mp hy
    rcases hy' with rfl | rfl
    · refine .inl ⟨_, _, _, _, ?_, spells_lineComment ds⟩
      rw [List.cons_append, List.cons_append, List.takeWhile_append_dropWhile]
    · by_cases hclose : closeMark <:+: ds
      · have hlt := (firstOccurrence_lt_iff_isInfix (List.cons_ne_nil _ _)).mpr hclose
        refine .inl ⟨_, _, _, _, ?_, spells_blockComment hlt⟩
        rw [List.cons_append, List.cons_append, ← eq_take_append_closeMark hlt]
      · exact .inr (.comment hclose)
  · rw [startsWord_iff] at hword
    rw [isDigit_iff] at hdigit
    exact .inl ⟨_, [x], cs, _, rfl,
      .punctuation (isSpace_eq_false_iff.mp hx) hword hdigit hquote hmark⟩

/-- **Every text comes apart.** -/
theorem exists_takenApart (xs : List Char) : ∃ ps sp cs, TakenApart xs ps sp cs := by
  -- a piece takes at least the first character of its token
  induction hn : xs.length using Nat.strong_induction_on generalizing xs with
  | _ n ih =>
    have hsplit : xs = xs.takeWhile isSpace ++ xs.dropWhile isSpace :=
      List.takeWhile_append_dropWhile.symm
    have hspace : ∀ x ∈ xs.takeWhile isSpace, isSpace x = true :=
      fun x hx => List.mem_takeWhile_imp hx
    rcases hdrop : xs.dropWhile isSpace with _ | ⟨x, cs⟩ <;> rw [hdrop] at hsplit
    · exact ⟨[], xs.takeWhile isSpace, [], hsplit, .nil, hspace, .inl rfl⟩
    · have hx : isSpace x = false := of_mem_head?_dropWhile isSpace xs x (by rw [hdrop]; rfl)
      rcases exists_spells_or_unclosed cs hx with ⟨kind, s, r, text, hsr, hspells⟩ | hopen
      · obtain ⟨y, ys, rfl, -⟩ := hspells.exists_cons
        have hlength := congrArg List.length hsplit
        rw [hsr, List.length_append, List.length_append, List.length_cons] at hlength
        obtain ⟨ps, sp, ds, hr, hfit, hsp, hlast⟩ := ih r.length (by omega) r rfl
        rw [hr] at hspells
        refine ⟨⟨xs.takeWhile isSpace, y :: ys, kind, text⟩ :: ps, sp, ds, ?_,
          .cons hspace hspells hfit, hsp, hlast⟩
        rw [Piece.charsAll_cons, Piece.chars, List.append_assoc, List.append_assoc, ← hr, ← hsr]
        exact hsplit
      · exact ⟨[], xs.takeWhile isSpace, x :: cs, hsplit, .nil, hspace, .inr hopen⟩

/-! ## Reading what is taken apart -/

section Reading

variable {src : Text} {a : Nat} {ps : List Piece} {sp cs r : List Char} {ts : List Token}

/-- **Pieces that fit are read first**, and then the others. -/
theorem lexFrom_of_fit (hleft : left src a = Piece.charsAll ps ++ r) (h : Piece.Fit ps r) :
    lexFrom (before src a) = (lexFrom (before src (a + (Piece.charsAll ps).length))).map
      (Piece.tokens (src.width a) ps ++ ·) := by
  induction h generalizing a with
  | nil => cases hrest : lexFrom (before src a) <;> simp [hrest, Except.map, Piece.tokens]
  | @cons p ps r hspace hspells _ ih =>
    rw [Piece.charsAll_cons, Piece.chars, List.append_assoc, List.append_assoc] at hleft
    have hrest := left_append (left_append hleft)
    have hwidth := Text.width_add_length hleft
    have hwidth' : src.width (a + p.spaces.length + p.spelling.length) =
        src.width a + utf8Width p.chars := by
      rw [Text.width_add_length (left_append hleft), hwidth, Piece.chars, utf8Width_append,
        Nat.add_assoc]
    have hlength : a + p.spaces.length + p.spelling.length + (Piece.charsAll ps).length =
        a + (Piece.charsAll (p :: ps)).length := by
      rw [Piece.charsAll_cons, Piece.chars, List.length_append, List.length_append]
      omega
    rw [lexFrom_of_spells hleft hspace hspells, ih hrest, hlength, src.start_eq_ofNat,
      src.start_eq_ofNat, hwidth', hwidth, Piece.tokens]
    cases lexFrom (before src (a + (Piece.charsAll (p :: ps)).length)) <;> rfl

/-- **What is not closed is not read**: the source ends where a closing mark has to come. -/
theorem lexeme_of_unclosed {x : Char} (hleft : left src a = x :: cs) (h : Unclosed (x :: cs)) :
    isSpace x = false ∧ lexeme (before src a) x = .error (.unmet (.endOfInput src.size)) := by
  cases h with
  | string hs =>
    refine ⟨by decide, ?_⟩
    rw [lexeme_quote hleft, quoted_before hleft, if_neg hs]
  | comment hs =>
    refine ⟨by decide, ?_⟩
    have hmark : closeMark ≠ [] := List.cons_ne_nil _ _
    rw [← firstOccurrence_lt_iff_isInfix hmark] at hs
    rw [lexeme_slash_star hleft, blockComment_before hleft, if_neg hs]

theorem lexFrom_of_unclosed (hleft : left src a = sp ++ cs) (hsp : ∀ x ∈ sp, isSpace x = true)
    (h : Unclosed cs) : lexFrom (before src a) = .error (.unmet (.endOfInput src.size)) := by
  obtain ⟨x, ds, rfl⟩ : ∃ x ds, cs = x :: ds := by
    cases h with
    | string => exact ⟨_, _, rfl⟩
    | comment => exact ⟨_, _, rfl⟩
  have hplace := left_append hleft
  obtain ⟨hx, hlexeme⟩ := lexeme_of_unclosed hplace h
  have hpast := pastSpace_before hleft hsp fun y hy => Option.some.inj hy ▸ hx
  have hcurrent : (pastSpace (before src a)).current? = some x := by
    rw [hpast, current?_before, hplace, List.head?_cons]
  exact lexFrom_of_error hcurrent (hpast ▸ hlexeme)

/-- **A source that comes apart into pieces and spaces** has the tokens of the pieces. -/
theorem lex_of_takenApart (h : TakenApart (toList src) ps sp []) :
    lex src = .ok (Piece.tokens 0 ps) := by
  have hleft : left src 0 = Piece.charsAll ps ++ sp := by
    rw [left, List.drop_zero, h.eq, List.append_nil]
  have hspace : ∀ x ∈ left src (0 + (Piece.charsAll ps).length), isSpace x = true := by
    rw [left_append hleft]
    exact h.space
  have hfit : Piece.Fit ps sp := List.append_nil sp ▸ h.fit
  rw [lex, ofInput_eq_before, lexFrom_of_fit hleft hfit, lexFrom_of_space hspace]
  exact congrArg Except.ok (List.append_nil _)

/-- **A source of which something is not closed** cannot be read. -/
theorem lex_of_unclosed (h : TakenApart (toList src) ps sp cs) (hcs : Unclosed cs) :
    lex src = .error (.unmet (.endOfInput src.size)) := by
  have hleft : left src 0 = Piece.charsAll ps ++ (sp ++ cs) := h.eq
  rw [lex, ofInput_eq_before, lexFrom_of_fit hleft h.fit,
    lexFrom_of_unclosed (left_append hleft) h.space hcs]
  rfl

/-- **A source that can be read** comes apart into the pieces of its tokens, and spaces. -/
theorem exists_takenApart_of_lex_eq_ok (h : lex src = .ok ts) :
    ∃ ps sp, TakenApart (toList src) ps sp [] ∧ ts = Piece.tokens 0 ps := by
  obtain ⟨ps, sp, cs, hapart⟩ := exists_takenApart (toList src)
  rcases hapart.last with rfl | hcs
  · exact ⟨ps, sp, hapart, Except.ok.inj (h.symm.trans (lex_of_takenApart hapart))⟩
  · exact nomatch h.symm.trans (lex_of_unclosed hapart hcs)

end Reading

end Token

end ForwardCursor
