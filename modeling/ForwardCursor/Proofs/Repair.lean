import ForwardCursor.Proofs.Splice

/-!
# Proofs/Repair — a source that cannot be read lacks one closing mark

Reading fails in one way only: a string or a comment is open where the source ends, and the end is
what was not expected.  Of the two marks that could close it, put behind the source, the right one
does, so that the source ends with the token that was open; the wrong one becomes a part of it
(`lex_repair`).

That the right mark is not found earlier, nor made out of the end of the source and the wrong one,
is a matter of its characters (`Unclosed.spells_or`).  The rest is about pieces: the last characters
become one more piece, or stay what they were.
-/

namespace ForwardCursor

namespace Token

open Input Piece

/-! ## A mark behind what is not closed -/

section Mark

variable {s cs : List Char} {x : Char}

/-- **A closing mark ends with a slash**, so no other character completes one. -/
theorem not_closeMark_isInfix_concat (h : ¬ closeMark <:+: s) (hx : x ≠ '/') :
    ¬ closeMark <:+: s ++ [x] := by
  rw [List.infix_concat_iff]
  rintro (⟨zs, hzs⟩ | hinfix)
  · have hlast : (zs ++ ['*']) ++ ['/'] = s ++ [x] := by rw [List.append_assoc]; exact hzs
    exact hx (List.singleton_inj.mp (List.append_inj_right' hlast rfl)).symm
  · exact h hinfix

/-- **A closing mark put behind** is the first one. -/
theorem eq_nil_of_append_closeMark (h : ¬ closeMark <:+: s) (p q : List Char)
    (hpq : s ++ closeMark = p ++ closeMark ++ q) : q = [] := by
  rcases List.eq_nil_or_concat' q with rfl | ⟨q, z, rfl⟩
  · rfl
  · -- one that comes before it would be complete before its slash
    have hlast : (s ++ ['*']) ++ ['/'] = (p ++ closeMark ++ q) ++ [z] := by
      rw [List.append_assoc, List.append_assoc]
      exact hpq
    have hinfix : closeMark <:+: s ++ ['*'] := ⟨p, q, (List.append_inj_left' hlast rfl).symm⟩
    exact absurd hinfix (not_closeMark_isInfix_concat h (by decide))

/-- **One of the two marks closes what is not closed**, and leaves nothing behind; with the other it
is still not closed. -/
theorem Unclosed.spells_or [Character.Classes] (h : Unclosed cs) :
    ((∃ text, Spells .string (cs ++ ['"']) [] text) ∧ Unclosed (cs ++ closeMark)) ∨
      ((∃ text, Spells .comment (cs ++ closeMark) [] text) ∧ Unclosed (cs ++ ['"'])) := by
  cases h with
  | @string s hs =>
    have hmark : '"' ∉ s ++ closeMark := by
      rw [List.mem_append]
      exact not_or_intro hs (by decide)
    exact .inl ⟨⟨s, .string hs⟩, .string hmark⟩
  | @comment s hs =>
    have hquote := not_closeMark_isInfix_concat hs (show '"' ≠ '/' by decide)
    have htext := Character.trimmed_trimmed s
    exact .inr ⟨⟨_, .blockComment (eq_nil_of_append_closeMark hs) htext⟩, .comment hquote⟩

end Mark

/-! ## A mark behind a text -/

namespace TakenApart

variable [Character.Classes] {xs sp cs mark : List Char} {ps : List Piece}

/-- Pieces fit before what comes last, whatever is put behind it. -/
theorem fit_append (h : TakenApart xs ps sp cs) (hcs : cs ≠ []) (mark : List Char) :
    Fit ps (sp ++ (cs ++ mark)) := by
  refine h.fit.of_head? (head?_append_of_head? ?_)
  rw [List.head?_append_of_ne_nil cs hcs]
  exact fun y hy => .inl hy

/-- **A mark that closes what comes last** makes one more piece of it. -/
theorem close {kind : TokenKind} {text : List Char} (h : TakenApart xs ps sp cs) (hcs : cs ≠ [])
    (hspells : Spells kind (cs ++ mark) [] text) :
    TakenApart (xs ++ mark) (ps ++ [⟨sp, cs ++ mark, kind, text⟩]) [] [] where
  eq := by
    rw [h.eq, charsAll_append, charsAll_cons, chars, charsAll_nil]
    simp only [List.append_assoc, List.append_nil]
  fit := by
    refine fit_append_iff.mpr ⟨?_, .cons h.space hspells .nil⟩
    rw [charsAll_cons, chars, charsAll_nil, List.append_nil, List.append_nil, List.append_nil]
    exact h.fit_append hcs mark
  space := nofun
  last := .inl rfl

/-- **A mark that does not close what comes last** becomes a part of it. -/
theorem keepOpen (h : TakenApart xs ps sp cs) (hcs : cs ≠ []) (hopen : Unclosed (cs ++ mark)) :
    TakenApart (xs ++ mark) ps sp (cs ++ mark) where
  eq := by rw [h.eq, List.append_assoc, List.append_assoc]
  fit := h.fit_append hcs mark
  space := h.space
  last := .inr hopen

end TakenApart

/-! ## A mark behind a source -/

theorem Unclosed.ne_nil {cs : List Char} (h : Unclosed cs) : cs ≠ [] := by
  cases h with
  | string => exact List.cons_ne_nil _ _
  | comment => exact List.cons_ne_nil _ _

/-- **A source closed by what was put behind it** — the last token that is read is of a kind, starts
within the source, and stops at the end of both together. -/
def ClosedAs [Character.Classes] (kind : TokenKind) (src c : Text) : Prop :=
  ∃ ts t, lex c = .ok (ts ++ [t]) ∧ t.kind = kind ∧
    t.start.toNat < src.string.utf8ByteSize ∧ t.stop.toNat = c.string.utf8ByteSize

/-- **A source is closed** if the piece that comes last starts in it. -/
theorem closedAs_of_takenApart [Character.Classes] {src c : Text} {p : Piece} {ps : List Piece}
    (h : TakenApart (toList c) (ps ++ [p]) [] [])
    (hstart : utf8Width (charsAll ps) + utf8Width p.spaces < src.string.utf8ByteSize) :
    ClosedAs p.kind src c := by
  have hwidth : c.string.utf8ByteSize = 0 + utf8Width (charsAll ps) + utf8Width p.chars := by
    rw [h.utf8ByteSize_eq, charsAll_append, charsAll_cons, charsAll_nil]
    simp only [utf8Width_append, utf8Width_nil]
    omega
  have hsize := c.size_lt
  rw [hwidth] at hsize
  refine ⟨_, _, (lex_of_takenApart h).trans (congrArg Except.ok (tokens_append 0 ps [p])), rfl,
    ?_, ?_⟩
  · rw [toNat_start_token hsize, Nat.zero_add]
    exact hstart
  · rw [toNat_stop_token hsize, hwidth]

section Closing

variable [Character.Classes] {src c : Text} {mark : String} {ps : List Piece} {sp cs : List Char}
  (hc : c.string = src.string ++ mark) (h : TakenApart (toList src) ps sp cs) (hcs : cs ≠ [])

include hc h hcs

/-- **A source is closed** by the mark that makes a token of what comes last. -/
theorem closedAs_of_spells {kind : TokenKind} {text : List Char}
    (hspells : Spells kind (cs ++ mark.toList) [] text) : ClosedAs kind src c := by
  have hclosed := h.close hcs hspells
  rw [← Text.toList_of_append hc] at hclosed
  have hstart : utf8Width (charsAll ps) + utf8Width sp < src.string.utf8ByteSize := by
    have hpos := List.length_pos_iff.mpr hcs
    have hle := length_le_utf8Width cs
    rw [h.utf8ByteSize_eq]
    omega
  exact closedAs_of_takenApart hclosed hstart

/-- **A source is not closed** by a mark that leaves open what comes last. -/
theorem exists_error_of_unclosed (hopen : Unclosed (cs ++ mark.toList)) :
    ∃ e, lex c = .error e := by
  have hstays := h.keepOpen hcs hopen
  rw [← Text.toList_of_append hc] at hstays
  exact ⟨_, lex_of_unclosed hstays hopen⟩

end Closing

/-- **A source that cannot be read lacks one closing mark.**  Reading fails only with the end of the
source, and where it fails, one of a quote and a closing mark behind the source closes it as the
string or the comment that was open, and with the other it still cannot be read. -/
theorem lex_repair [Character.Classes] (src : Text) :
    ((∃ ts, lex src = .ok ts) ∨ ∃ i : Index, i.toNat = src.string.utf8ByteSize ∧
      lex src = .error (.unmet (.endOfInput i))) ∧
    ∀ e, lex src = .error e → ∀ q b : Text, q.string = src.string ++ "\"" →
      b.string = src.string ++ "*/" →
      (ClosedAs .string src q ∧ ∃ e, lex b = .error e) ∨
        (ClosedAs .comment src b ∧ ∃ e, lex q = .error e) := by
  obtain ⟨ps, sp, cs, hapart⟩ := exists_takenApart (toList src)
  rcases hapart.last with rfl | hopen
  · have hok := lex_of_takenApart hapart
    exact ⟨.inl ⟨_, hok⟩, fun e he => nomatch hok.symm.trans he⟩
  · have hcs := hopen.ne_nil
    refine ⟨.inr ⟨src.size, src.toNat_size, lex_of_unclosed hapart hopen⟩, ?_⟩
    intro e _ q b hq hb
    rcases hopen.spells_or with ⟨⟨text, hspells⟩, hstays⟩ | ⟨⟨text, hspells⟩, hstays⟩
    · exact .inl ⟨closedAs_of_spells hq hapart hcs hspells,
        exists_error_of_unclosed hb hapart hcs hstays⟩
    · exact .inr ⟨closedAs_of_spells hb hapart hcs hspells,
        exists_error_of_unclosed hq hapart hcs hstays⟩

/-- The comment that is open in `x/*"é*` ends with a star, and there is a quote in it: the closing
mark closes it, and a quote does not. -/
theorem lex_repair_open_comment :
    lex ⟨"x/*\"é*", by decide⟩ = .error (.unmet (.endOfInput 7)) ∧
    ((ClosedAs .string ⟨"x/*\"é*", by decide⟩ ⟨"x/*\"é*\"", by decide⟩ ∧
        ∃ e, lex ⟨"x/*\"é**/", by decide⟩ = .error e) ∨
      (ClosedAs .comment ⟨"x/*\"é*", by decide⟩ ⟨"x/*\"é**/", by decide⟩ ∧
        ∃ e, lex ⟨"x/*\"é*\"", by decide⟩ = .error e)) := by
  have hopen : lex ⟨"x/*\"é*", by decide⟩ = .error (.unmet (.endOfInput 7)) := by decide +kernel
  exact ⟨hopen, (lex_repair _).2 _ hopen _ _ rfl rfl⟩

end Token

end ForwardCursor
