import ForwardCursor.Proofs.Piece

/-!
# Proofs/Splice — sources cut and joined

A source can be cut where a token stops: what is in front has the tokens up to it, and what is
behind has the others, moved back (`lex_cut`).  Two sources can be joined by a line break: the
tokens are those of both, the second ones moved on, and what is not closed in the second is not
closed (`lex_join`).

Neither follows the reading of a source, nor depends on what is taken for a letter and for a
numeral.  Sources come apart into pieces; here the list of pieces is cut in two, or two lists are
put one behind the other, and the pieces fit as before.
-/

namespace ForwardCursor

namespace Token

open Cursor Input Piece

/-! ## Moved tokens -/

/-- **A token moved on** by `n` bytes. -/
structure Moved (n : Nat) (t u : Token) : Prop where
  /-- It is what it was. -/
  kind : u.kind = t.kind
  /-- It says what it said. -/
  text : u.text = t.text
  /-- It starts further on. -/
  start : u.start.toNat = t.start.toNat + n
  /-- It stops further on. -/
  stop : u.stop.toNat = t.stop.toNat + n

section Moved

variable {w n : Nat}

theorem moved_token {p : Piece} (h : w + n + utf8Width p.chars < UInt64.size) :
    Moved n (p.token w) (p.token (w + n)) := by
  have h₀ : w + utf8Width p.chars < UInt64.size := by omega
  refine ⟨rfl, rfl, ?_, ?_⟩
  · rw [toNat_start_token h, toNat_start_token h₀]
    exact Nat.add_right_comm ..
  · rw [toNat_stop_token h, toNat_stop_token h₀]
    exact Nat.add_right_comm ..

/-- **The same pieces further on** have the same tokens further on. -/
theorem forall₂_moved_tokens {ps : List Piece} (h : w + n + utf8Width (charsAll ps) < UInt64.size) :
    List.Forall₂ (Moved n) (tokens w ps) (tokens (w + n) ps) := by
  induction ps generalizing w with
  | nil => exact .nil
  | cons p ps ih =>
    rw [charsAll_cons, utf8Width_append] at h
    have hrest := ih (w := w + utf8Width p.chars) (by omega)
    rw [Nat.add_right_comm] at hrest
    exact .cons (moved_token (by omega)) hrest

end Moved

/-! ## Pieces cut and put together -/

namespace TakenApart

variable [Character.Classes] {xs ys zs sp cs : List Char} {ps qs : List Piece}

theorem eq_append (h : TakenApart xs (ps ++ qs) sp cs) :
    xs = charsAll ps ++ (charsAll qs ++ (sp ++ cs)) := by
  rw [h.eq, charsAll_append, List.append_assoc]

/-- **The bytes of a source** are those of its pieces and of what comes last. -/
theorem utf8ByteSize_eq {src : Text} (h : TakenApart (toList src) ps sp cs) :
    src.string.utf8ByteSize = utf8Width (charsAll ps) + (utf8Width sp + utf8Width cs) := by
  have hwidth : utf8Width src.string.toList = _ := congrArg utf8Width h.eq
  rw [utf8ByteSize_eq_utf8Width, hwidth, utf8Width_append, utf8Width_append]

theorem utf8Width_charsAll_le {src : Text} (h : TakenApart (toList src) ps sp cs) :
    utf8Width (charsAll ps) ≤ src.string.utf8ByteSize := by
  rw [h.utf8ByteSize_eq]
  exact Nat.le_add_right ..

/-- **The pieces in front** of others are a text by themselves. -/
theorem front (h : TakenApart xs (ps ++ qs) sp cs) : TakenApart (charsAll ps) ps [] [] where
  eq := (List.append_nil _).symm
  fit := (fit_append_iff.mp h.fit).1.of_head? nofun
  space := nofun
  last := .inl rfl

/-- **The pieces behind** others, with what comes last, are a text by themselves. -/
theorem back (h : TakenApart xs (ps ++ qs) sp cs) :
    TakenApart (charsAll qs ++ (sp ++ cs)) qs sp cs where
  eq := rfl
  fit := (fit_append_iff.mp h.fit).2
  space := h.space
  last := h.last

/-- **Pieces can be put in front** of a text they fit before. -/
theorem behind_pieces (h : TakenApart zs qs sp cs) (hfit : Fit ps zs) :
    TakenApart (charsAll ps ++ zs) (ps ++ qs) sp cs where
  eq := by rw [charsAll_append, List.append_assoc, ← h.eq]
  fit := fit_append_iff.mpr ⟨h.eq ▸ hfit, h.fit⟩
  space := h.space
  last := h.last

/-- **Spaces can be put in front** of a text: they go to its first piece, or to the spaces at the
end, and the tokens are moved on. -/
theorem behind_spaces (h : TakenApart zs qs sp cs) (hxs : ∀ x ∈ xs, isSpace x = true) :
    ∃ rs sp', TakenApart (xs ++ zs) rs sp' cs ∧
      ∀ w, tokens w rs = tokens (w + utf8Width xs) qs := by
  obtain ⟨heq, hfit, hspace, hlast⟩ := h
  cases hfit with
  | nil =>
    refine ⟨[], xs ++ sp, ⟨?_, .nil, ?_, hlast⟩, fun _ => rfl⟩
    · rw [heq, List.append_assoc]
      rfl
    · exact List.forall_mem_append.mpr ⟨hxs, hspace⟩
  | @cons p ps _ hp hspells hps =>
    refine ⟨⟨xs ++ p.spaces, p.spelling, p.kind, p.text⟩ :: ps, sp, ⟨?_, ?_, hspace, hlast⟩, ?_⟩
    · rw [heq, charsAll_cons, charsAll_cons, chars, chars]
      simp only [List.append_assoc]
    · exact .cons (List.forall_mem_append.mpr ⟨hxs, hp⟩) hspells hps
    · intro w
      simp only [tokens, token, chars, utf8Width_append, Nat.add_assoc]

/-- **Texts are joined by a line break**, which closes whatever piece comes before it. -/
theorem join (hxs : TakenApart xs ps sp []) {sp' : List Char} (hys : TakenApart ys qs sp' cs) :
    ∃ rs sp'', TakenApart (xs ++ '\n' :: ys) (ps ++ rs) sp'' cs ∧
      tokens (utf8Width (charsAll ps)) rs = tokens (utf8Width xs + 1) qs := by
  have hbreak : ∀ x ∈ sp ++ ['\n'], isSpace x = true :=
    List.forall_mem_append.mpr ⟨hxs.space, List.forall_mem_singleton.mpr (by decide)⟩
  obtain ⟨rs, sp'', hrs, htokens⟩ := hys.behind_spaces hbreak
  have hfit : Fit ps ((sp ++ ['\n']) ++ ys) := by
    refine hxs.fit.of_head? ?_
    cases sp with
    | nil => exact fun y hy => .inr (Option.some.inj hy).symm
    | cons x sp => exact fun y hy => .inl hy
  refine ⟨rs, sp'', ?_, ?_⟩
  · have happend : xs ++ '\n' :: ys = charsAll ps ++ ((sp ++ ['\n']) ++ ys) := by
      rw [hxs.eq]
      simp only [List.append_assoc, List.append_nil, List.cons_append, List.nil_append]
    exact happend ▸ hrs.behind_pieces hfit
  · rw [htokens, hxs.eq, List.append_nil, utf8Width_append, utf8Width_append, Nat.add_assoc]
    rfl

end TakenApart

/-! ## Cutting a source -/

/-- **A source can be cut** behind any of its characters. -/
theorem exists_cut {src : Text} {xs ys : List Char} (h : toList src = xs ++ ys) :
    ∃ front back : Text, src.slice? 0 (.ofNat (utf8Width xs)) = some front ∧
      src.slice? (.ofNat (utf8Width xs)) src.size = some back ∧
      toList front = xs ∧ toList back = ys := by
  have hplace : Input.start src xs.length = .ofNat (utf8Width xs) := Text.start_of_append h
  have hsize : src.size = Input.start src (toList src).length := (LawfulInput.start_length src).symm
  have hlength : xs.length ≤ (toList src).length := by
    rw [h, List.length_append]
    exact Nat.le_add_right ..
  refine ⟨part src 0 xs.length, part src xs.length (toList src).length, ?_, ?_, ?_, ?_⟩
  · rw [← hplace]
    exact slice?_start_eq_part (k := 0) src (Nat.zero_le _)
  · rw [← hplace, hsize]
    exact slice?_start_eq_part src hlength
  · rw [toList_part src (Nat.zero_le _), left, List.drop_zero, Nat.sub_zero, h, List.take_left]
  · rw [toList_part_length hlength, left, h, List.drop_left]

/-- **A source can be cut where a token stops.**  What is in front has the tokens up to this one;
what is behind has the others, which are further on in the source by where it was cut. -/
theorem lex_cut [Character.Classes] {src : Text} {ts : List Token} {k : Nat}
    (h : lex src = .ok ts) (hk : k < ts.length) :
    ∃ front back us, src.slice? 0 ts[k].stop = some front ∧
      src.slice? ts[k].stop src.size = some back ∧
      lex front = .ok (ts.take (k + 1)) ∧
      lex back = .ok us ∧ List.Forall₂ (Moved ts[k].stop.toNat) us (ts.drop (k + 1)) := by
  obtain ⟨ps, sp, hapart, rfl⟩ := exists_takenApart_of_lex_eq_ok h
  have hbytes := hapart.utf8Width_charsAll_le
  have hsize := src.size_lt
  have hstop := stop_of_getElem?_tokens (List.getElem?_eq_getElem hk)
  rw [Nat.zero_add] at hstop
  -- the pieces are cut behind the one of the token
  rw [← List.take_append_drop (k + 1) ps] at hapart hbytes
  rw [charsAll_append, utf8Width_append] at hbytes
  have hplace : (tokens 0 ps)[k].stop.toNat = utf8Width (charsAll (ps.take (k + 1))) := by
    rw [hstop, Index.toNat_ofNat_of_lt (by omega)]
  obtain ⟨front, back, hfront, hback, hxs, hys⟩ := exists_cut hapart.eq_append
  refine ⟨front, back, tokens 0 (ps.drop (k + 1)), hstop ▸ hfront, hstop ▸ hback, ?_, ?_, ?_⟩
  · rw [take_tokens]
    exact lex_of_takenApart (hxs ▸ hapart.front)
  · exact lex_of_takenApart (hys ▸ hapart.back)
  · rw [hplace, drop_tokens]
    exact forall₂_moved_tokens (by omega)

/-- Where the comment in `/*é*/x 1` stops, the source can be cut, and what is behind starts with a
word. -/
theorem lex_cut_behind_comment :
    lex ⟨"/*é*/x 1", by decide⟩ =
      .ok [⟨.comment, "é", 0, 6⟩, ⟨.word, "x", 6, 7⟩, ⟨.number, "1", 8, 9⟩] ∧
    ∃ front back us, Text.slice? ⟨"/*é*/x 1", by decide⟩ 0 6 = some front ∧
      Text.slice? ⟨"/*é*/x 1", by decide⟩ 6 9 = some back ∧
      lex front = .ok [⟨.comment, "é", 0, 6⟩] ∧ lex back = .ok us ∧
      List.Forall₂ (Moved 6) us [⟨.word, "x", 6, 7⟩, ⟨.number, "1", 8, 9⟩] := by
  have h : lex ⟨"/*é*/x 1", by decide⟩ =
      .ok [⟨.comment, "é", 0, 6⟩, ⟨.word, "x", 6, 7⟩, ⟨.number, "1", 8, 9⟩] := by decide +kernel
  exact ⟨h, lex_cut (k := 0) h (by decide)⟩

/-! ## Joining sources -/

section Joining

variable {a b c : Text} (hc : c.string = a.string ++ "\n" ++ b.string)

include hc

theorem toList_of_joined : toList c = toList a ++ '\n' :: toList b := by
  rw [String.append_assoc] at hc
  rw [Text.toList_of_append hc, String.toList_append]
  rfl

theorem utf8ByteSize_of_joined :
    c.string.utf8ByteSize = a.string.utf8ByteSize + 1 + b.string.utf8ByteSize := by
  rw [hc, String.utf8ByteSize_append, String.utf8ByteSize_append]
  rfl

/-- **The pieces of sources that are joined** are those of both, the second ones further on. -/
theorem exists_takenApart_of_joined [Character.Classes] {ps qs : List Piece}
    {sp sp' cs : List Char} (ha : TakenApart (toList a) ps sp [])
    (hb : TakenApart (toList b) qs sp' cs) :
    ∃ rs sp'', TakenApart (toList c) (ps ++ rs) sp'' cs ∧
      tokens 0 (ps ++ rs) = tokens 0 ps ++ tokens (0 + (a.string.utf8ByteSize + 1)) qs := by
  obtain ⟨rs, sp'', hrs, htokens⟩ := ha.join hb
  refine ⟨rs, sp'', (toList_of_joined hc).symm ▸ hrs, ?_⟩
  rw [tokens_append, Nat.zero_add, htokens, Nat.zero_add, utf8ByteSize_eq_utf8Width]
  rfl

end Joining

/-- **A line break joins sources.**  The tokens are those of the first, and those of the second
moved on; and if the second cannot be read, the end of both together is not expected. -/
theorem lex_join [Character.Classes] {a b c : Text} {ta : List Token} (ha : lex a = .ok ta)
    (hc : c.string = a.string ++ "\n" ++ b.string) :
    (∀ tb, lex b = .ok tb → ∃ us,
      List.Forall₂ (Moved (a.string.utf8ByteSize + 1)) tb us ∧ lex c = .ok (ta ++ us)) ∧
    ∀ e, lex b = .error e → ∃ i : Index,
      i.toNat = a.string.utf8ByteSize + 1 + b.string.utf8ByteSize ∧
      lex c = .error (.unmet (.endOfInput i)) := by
  obtain ⟨ps, sp, hps, rfl⟩ := exists_takenApart_of_lex_eq_ok ha
  obtain ⟨qs, sp', cs, hqs⟩ := exists_takenApart (toList b)
  obtain ⟨rs, sp'', hrs, htokens⟩ := exists_takenApart_of_joined hc hps hqs
  have hsize := utf8ByteSize_of_joined hc
  have hbytes := hqs.utf8Width_charsAll_le
  rcases hqs.last with rfl | hcs
  · have hb := lex_of_takenApart hqs
    refine ⟨?_, fun e he => nomatch hb.symm.trans he⟩
    rintro tb htb
    obtain rfl := Except.ok.inj (htb.symm.trans hb)
    have hword := c.size_lt
    exact ⟨_, forall₂_moved_tokens (by omega), htokens ▸ lex_of_takenApart hrs⟩
  · have hb := lex_of_unclosed hqs hcs
    refine ⟨fun tb htb => (nomatch hb.symm.trans htb), fun _ _ => ⟨c.size, ?_, ?_⟩⟩
    · rw [Text.toNat_size, hsize]
    · exact lex_of_unclosed hrs hcs

/-- Behind the comment `//é` and a line break, a word is read as it is by itself, and a quote is not
closed there either. -/
theorem lex_join_behind_comment :
    (∃ us, List.Forall₂ (Moved 5) [⟨.word, "x", 0, 1⟩] us ∧
      lex ⟨"//é\nx", by decide⟩ = .ok ([⟨.comment, "é", 0, 4⟩] ++ us)) ∧
    ∃ i : Index, i.toNat = 6 ∧ lex ⟨"//é\n\"", by decide⟩ = .error (.unmet (.endOfInput i)) := by
  have hcomment : lex ⟨"//é", by decide⟩ = .ok [⟨.comment, "é", 0, 4⟩] := by decide +kernel
  have hword : lex ⟨"x", by decide⟩ = .ok [⟨.word, "x", 0, 1⟩] := by decide +kernel
  have hquote : lex ⟨"\"", by decide⟩ = .error (.unmet (.endOfInput 1)) := by decide +kernel
  exact ⟨(lex_join hcomment rfl).1 _ hword, (lex_join hcomment rfl).2 _ hquote⟩

end Token

end ForwardCursor
