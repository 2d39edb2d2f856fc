import ForwardCursor.Proofs.Lexeme

/-!
# Proofs/Grammar — which tokens a source has

`Lexed src ts` says what it is for `ts` to be the tokens of a source: in order, each spelled by the
characters of its span and the ones behind it, and with nothing but spaces outside.  It does not
read from left to right.  `lex_eq_ok_iff` proves that reading finds just these tokens: no other
tokens fit the source, and tokens that fit are found.

Between the two stands `Listing`, which takes a source apart as reading does, spaces and a token at
a time, but asks of a token only that it is spelled as it should be.
-/

namespace ForwardCursor

namespace Token

open Cursor Input

/-! ## Places in a source -/

section Places

variable {src : Text} {a : Nat}

/-- **Spaces are passed** up to what is none. -/
theorem pastSpace_before {sp cs : List Char} (hleft : left src a = sp ++ cs)
    (hsp : ∀ x ∈ sp, isSpace x = true) (hcs : ∀ x ∈ cs.head?, isSpace x = false) :
    pastSpace (before src a) = before src (a + sp.length) := by
  have hskip := congrArg Outcome.cursor (skip_before src a (.members isSpace))
  rwa [Move.passed, hleft, takeWhile_append_of_head? hsp hcs] at hskip

theorem left_append {sp cs : List Char} (hleft : left src a = sp ++ cs) :
    left src (a + sp.length) = cs := by
  rw [← drop_left, hleft, List.drop_left]

/-- **The characters of a part**, and those behind it. -/
theorem slice?_src_eq_some_iff {s : Text} {b e : Nat} (h : b ≤ e) :
    src.slice? (Input.start src b) (Input.start src e) = some s ↔
      s.string.toList = (left src b).take (e - b) := by
  have hpart := slice?_start_eq_part src h
  have hlist := toList_part src h
  constructor
  · intro hs
    rw [Option.some.inj (hs.symm.trans hpart)]
    exact hlist
  · intro hs
    exact hpart.trans (congrArg some (LawfulInput.ext_toList (hlist.trans hs.symm)))

theorem getElem?_left_sub {k : Nat} (h : a ≤ k) : (left src a)[k - a]? = (toList src)[k]? := by
  rw [left, List.getElem?_drop, Nat.add_sub_of_le h]

end Places

section Reading

variable [Character.Classes]

/-! ## What the tokens of a source are -/

/-- **A token in a source** — its span is not empty and lies between boundaries, and the characters
in it, with those behind it, spell the token. -/
structure Spelled (src : Text) (t : Token) : Prop where
  /-- The span is not empty. -/
  nonempty : t.start < t.stop
  /-- It starts at a boundary. -/
  start : src.isBoundary t.start = true
  /-- It stops at a boundary. -/
  stop : src.isBoundary t.stop = true
  /-- What is in it and what is behind it spell the token. -/
  spells : ∃ s r, src.slice? t.start t.stop = some s ∧ src.slice? t.stop src.size = some r ∧
    Spells t.kind s.string.toList r.string.toList t.text.toList

/-- **The tokens of a source.** -/
structure Lexed (src : Text) (ts : List Token) : Prop where
  /-- They are in order, and do not overlap. -/
  ordered : ts.Pairwise fun t u => t.stop ≤ u.start
  /-- Each is in the source. -/
  spelled : ∀ t ∈ ts, Spelled src t
  /-- What is outside of all spans is space. -/
  space : ∀ i x, src.get? i = some x → (∀ t ∈ ts, i < t.start ∨ t.stop ≤ i) →
    x ∈ [' ', '\t', '\r', '\n']

/-! ## The tokens from a place on -/

/-- **The tokens from the `a`-th character on** — spaces, a token and so on, and spaces at the
end. -/
inductive Listing (src : Text) : Nat → List Token → Prop
  /-- Only spaces are left. -/
  | done {a : Nat} : (∀ x ∈ left src a, isSpace x = true) → Listing src a []
  /-- Spaces and a token come before the others. -/
  | token {a : Nat} {sp s r text : List Char} {kind : TokenKind} {ts : List Token} :
    left src a = sp ++ (s ++ r) → (∀ x ∈ sp, isSpace x = true) → Spells kind s r text →
    Listing src (a + sp.length + s.length) ts →
    Listing src a (⟨kind, String.ofList text, Input.start src (a + sp.length),
      Input.start src (a + sp.length + s.length)⟩ :: ts)

variable {src : Text} {a : Nat} {ts : List Token}

/-- **A token that fits is read first**, and then the others. -/
theorem lexFrom_of_spells {sp s r text : List Char} {kind : TokenKind}
    (hleft : left src a = sp ++ (s ++ r)) (hsp : ∀ x ∈ sp, isSpace x = true)
    (hspells : Spells kind s r text) :
    lexFrom (before src a) = (lexFrom (before src (a + sp.length + s.length))).map
      (⟨kind, String.ofList text, Input.start src (a + sp.length),
        Input.start src (a + sp.length + s.length)⟩ :: ·) := by
  obtain ⟨x, xs, rfl, hx⟩ := hspells.exists_cons
  have hplace := left_append hleft
  have hpast := pastSpace_before hleft hsp fun y hy => Option.some.inj hy ▸ hx
  have hcurrent : (pastSpace (before src a)).current? = some x := by
    rw [hpast, current?_before, hplace, List.cons_append, List.head?_cons]
  have hlexeme := lexeme_of_spells hspells hplace
  rw [← hpast] at hlexeme
  rw [lexFrom_of_ok hcurrent hlexeme, hpast]
  rfl

/-- **Spaces alone** have no tokens. -/
theorem lexFrom_of_space (h : ∀ x ∈ left src a, isSpace x = true) :
    lexFrom (before src a) = .ok [] := by
  have hleft : left src a = left src a ++ [] := (List.append_nil _).symm
  refine lexFrom_of_none ?_
  rw [pastSpace_before hleft h nofun, current?_before, left_append hleft, List.head?_nil]

/-- **Tokens that fit are found.** -/
theorem lexFrom_of_listing (h : Listing src a ts) : lexFrom (before src a) = .ok ts := by
  induction h with
  | done hspace => exact lexFrom_of_space hspace
  | token hleft hsp hspells _ ih =>
    rw [lexFrom_of_spells hleft hsp hspells, ih]
    rfl

/-- **What reading does first** — it passes spaces, and stops or reads a token and goes on. -/
theorem lexFrom_eq_ok (h : lexFrom (before src a) = .ok ts) :
    (ts = [] ∧ ∀ x ∈ left src a, isSpace x = true) ∨
      ∃ sp s r kind text us, left src a = sp ++ (s ++ r) ∧ (∀ x ∈ sp, isSpace x = true) ∧
        Spells kind s r text ∧ lexFrom (before src (a + sp.length + s.length)) = .ok us ∧
        ts = ⟨kind, String.ofList text, Input.start src (a + sp.length),
          Input.start src (a + sp.length + s.length)⟩ :: us := by
  have hleft : left src a = (left src a).takeWhile isSpace ++ (left src a).dropWhile isSpace :=
    List.takeWhile_append_dropWhile.symm
  have hsp : ∀ x ∈ (left src a).takeWhile isSpace, isSpace x = true :=
    fun x hx => List.mem_takeWhile_imp hx
  have hstop := of_mem_head?_dropWhile isSpace (left src a)
  have hpast := pastSpace_before hleft hsp hstop
  rcases hcs : (left src a).dropWhile isSpace with _ | ⟨x, xs⟩
  · have hcurrent : (pastSpace (before src a)).current? = none := by
      rw [hpast, current?_before, left_append hleft, hcs, List.head?_nil]
    refine .inl ⟨(Except.ok.inj ((lexFrom_of_none hcurrent).symm.trans h)).symm, ?_⟩
    exact List.dropWhile_eq_nil_iff.mp hcs
  · have hplace := (left_append hleft).trans hcs
    have hcurrent : (pastSpace (before src a)).current? = some x := by
      rw [hpast, current?_before, hplace, List.head?_cons]
    rcases hl : lexeme (pastSpace (before src a)) x with e | l
    · exact nomatch (lexFrom_of_error hcurrent hl).symm.trans h
    · rw [lexFrom_of_ok hcurrent hl, hpast] at h
      rw [hpast] at hl
      obtain ⟨s, r, hsr, hspells, hcursor⟩ :=
        spelledAt_of_lexeme hplace (hstop x (by rw [hcs]; rfl)) hl
      rcases hus : lexFrom l.cursor with e | us
      · rw [hus] at h
        exact nomatch h
      · rw [hus] at h
        refine .inr ⟨_, s, r, l.kind, l.text.toList, us, ?_, hsp, hspells, ?_, ?_⟩
        · rw [← hsr, left_append hleft]
          exact hleft
        · rw [← hcursor, hus]
        · rw [← Except.ok.inj h, String.ofList_toList, Lexeme.token, hcursor]
          rfl

/-- **Tokens that are found fit.** -/
theorem listing_of_lexFrom (h : lexFrom (before src a) = .ok ts) : Listing src a ts := by
  induction ts generalizing a with
  | nil =>
    rcases lexFrom_eq_ok h with ⟨-, hspace⟩ | ⟨sp, s, r, kind, text, us, -, -, -, -, hts⟩
    · exact .done hspace
    · cases hts
  | cons t ts ih =>
    rcases lexFrom_eq_ok h with ⟨hts, -⟩ | ⟨sp, s, r, kind, text, us, hleft, hsp, hspells, hus, hts⟩
    · cases hts
    · obtain ⟨rfl, rfl⟩ := List.cons.inj hts
      exact .token hleft hsp hspells (ih hus)

/-! ## From places to spans -/

/-- **A token has a place** behind what comes before it. -/
theorem length_lt_of_spells {b : Nat} {s r text : List Char} {kind : TokenKind}
    (hleft : left src b = s ++ r) (h : Spells kind s r text) :
    0 < s.length ∧ b + s.length ≤ (toList src).length := by
  obtain ⟨x, xs, rfl, -⟩ := h.exists_cons
  have hlength := congrArg List.length hleft
  rw [length_left, List.length_append] at hlength
  rw [List.length_cons] at hlength ⊢
  omega

/-- **A token in a source, by its place** — the characters from the `b`-th on spell it. -/
theorem spelled_iff {t : Token} : Spelled src t ↔ ∃ b s r, left src b = s ++ r ∧
    t.start = Input.start src b ∧ t.stop = Input.start src (b + s.length) ∧
    Spells t.kind s r t.text.toList := by
  constructor
  · rintro ⟨-, -, -, s, r, hs, hr, hspells⟩
    obtain ⟨b, e, hbe, he, hstart, hstop⟩ := LawfulInput.start_of_slice? (c := src) hs
    rw [hstart, hstop, slice?_src_eq_some_iff hbe] at hs
    have hsize : src.size = Input.start src (toList src).length :=
      (LawfulInput.start_length src).symm
    rw [hstop, hsize, slice?_src_eq_some_iff he, ← length_left, List.take_length] at hr
    have hlength : b + ((left src b).take (e - b)).length = e := by
      rw [List.length_take, length_left]
      omega
    have hdrop : (left src b).drop (e - b) = left src e := by
      rw [drop_left, Nat.add_sub_of_le hbe]
    refine ⟨b, _, _, ?_, hstart, ?_, hs ▸ hr ▸ hspells⟩
    · rw [← hdrop, List.take_append_drop]
    · rw [hlength, hstop]
  · rintro ⟨b, s, r, hleft, hstart, hstop, hspells⟩
    obtain ⟨hpos, hle⟩ := length_lt_of_spells hleft hspells
    have hs : (part src b (b + s.length)).string.toList = s := by
      refine (toList_part_add src b s.length).trans ?_
      rw [hleft, List.take_left]
    have hr : (part src (b + s.length) (toList src).length).string.toList = r := by
      refine (toList_part src hle).trans ?_
      rw [← length_left, List.take_length, left_append hleft]
    refine ⟨?_, ?_, ?_, part src b (b + s.length), part src (b + s.length) (toList src).length,
      ?_, ?_, ?_⟩
    · rw [hstart, hstop]
      exact start_lt_start (by omega) (by omega)
    · rw [hstart]
      exact src.isBoundary_start b
    · rw [hstop]
      exact src.isBoundary_start (b + s.length)
    · rw [hstart, hstop]
      exact slice?_start_eq_part src (Nat.le_add_right ..)
    · have hsize : src.size = Input.start src (toList src).length :=
        (LawfulInput.start_length src).symm
      rw [hstop, hsize]
      exact slice?_start_eq_part src hle
    · rwa [hs, hr]

/-- **What tokens are from a place on**, whatever comes before it. -/
structure LexedFrom (src : Text) (a : Nat) (ts : List Token) : Prop where
  /-- They are in order, and do not overlap. -/
  ordered : ts.Pairwise fun t u => t.stop ≤ u.start
  /-- Each is in the source. -/
  spelled : ∀ t ∈ ts, Spelled src t
  /-- They are behind the place. -/
  behind : ∀ t ∈ ts, Input.start src a ≤ t.start
  /-- What is behind the place and outside of all spans is space. -/
  space : ∀ k x, a ≤ k → (toList src)[k]? = some x →
    (∀ t ∈ ts, Input.start src k < t.start ∨ t.stop ≤ Input.start src k) → isSpace x = true

theorem lexed_iff_lexedFrom : Lexed src ts ↔ LexedFrom src 0 ts := by
  constructor
  · rintro ⟨hordered, hspelled, hspace⟩
    refine ⟨hordered, hspelled, fun _ _ => UInt64.zero_le, ?_⟩
    intro k x _ hx hout
    exact isSpace_iff.mpr (hspace _ x ((get?_start src k).trans hx) hout)
  · rintro ⟨hordered, hspelled, -, hspace⟩
    refine ⟨hordered, hspelled, ?_⟩
    intro i x hx hout
    obtain ⟨k, rfl⟩ := LawfulInput.eq_start_of_get? (c := src) hx
    exact isSpace_iff.mp (hspace k x (Nat.zero_le k) ((get?_start src k).symm.trans hx) hout)

/-- **A listing gives tokens in order.** -/
theorem lexedFrom_of_listing (h : Listing src a ts) : LexedFrom src a ts := by
  induction h with
  | @done a hspace =>
    refine ⟨.nil, nofun, nofun, ?_⟩
    intro k x hk hx _
    exact hspace x (List.mem_of_getElem? ((getElem?_left_sub hk).trans hx))
  | @token a sp s r text kind ts hleft hsp hspells _ ih =>
    have hplace := left_append hleft
    have hspell : Spells kind s r (String.ofList text).toList := by rwa [String.toList_ofList]
    obtain ⟨hpos, hle⟩ := length_lt_of_spells hplace hspells
    refine ⟨List.pairwise_cons.mpr ⟨ih.behind, ih.ordered⟩,
      List.forall_mem_cons.mpr ⟨?_, ih.spelled⟩,
      List.forall_mem_cons.mpr ⟨start_le_start (Nat.le_add_right ..), ?_⟩, ?_⟩
    · exact spelled_iff.mpr ⟨_, s, r, hplace, rfl, rfl, hspell⟩
    · intro u hu
      exact UInt64.le_trans (start_le_start (by omega)) (ih.behind u hu)
    · intro k x hk hx hout
      obtain ⟨hhead, htail⟩ := List.forall_mem_cons.mp hout
      have hklen := (List.getElem?_eq_some_iff.mp hx).1
      rcases Nat.lt_or_ge k (a + sp.length) with hksp | hksp
      · -- before the first token there are only spaces
        rw [← getElem?_left_sub hk, hleft, List.getElem?_append_left (by omega)] at hx
        exact hsp x (List.mem_of_getElem? hx)
      · rcases hhead with hlt | hge
        · exact absurd hlt (UInt64.not_lt.mpr (start_le_start hksp))
        · exact ih.space k x ((start_le_start_iff hle (Nat.le_of_lt hklen)).mp hge) hx htail

namespace LexedFrom

section First

variable {t : Token} {b : Nat} (h : LexedFrom src a (t :: ts))
  (hstart : t.start = Input.start src b) (hb : b < (toList src).length)

include h hstart hb

/-- **The first token has its place** at or behind the place they are from. -/
theorem le_place : a ≤ b := by
  by_contra hba
  have hlt : Input.start src b < Input.start src a := start_lt_start hb (Nat.lt_of_not_le hba)
  exact absurd (hstart ▸ h.behind t List.mem_cons_self) (UInt64.not_le.mpr hlt)

/-- **Before the first token** there are only spaces. -/
theorem space_before_first : ∀ x ∈ (left src a).take (b - a), isSpace x = true := by
  intro x hx
  obtain ⟨j, hj⟩ := List.mem_iff_getElem?.mp hx
  have hjb : j < b - a := by
    have hlength := (List.getElem?_eq_some_iff.mp hj).1
    rw [List.length_take] at hlength
    omega
  have hfirst : Input.start src (a + j) < t.start := hstart ▸ start_lt_start (by omega) (by omega)
  have hspan := (h.spelled t List.mem_cons_self).nonempty
  rw [List.getElem?_take_of_lt hjb, left, List.getElem?_drop] at hj
  refine h.space (a + j) x (Nat.le_add_right a j) hj
    (List.forall_mem_cons.mpr ⟨.inl hfirst, fun u hu => .inl ?_⟩)
  have hnext : t.stop ≤ u.start := (List.pairwise_cons.mp h.ordered).1 u hu
  exact UInt64.lt_of_lt_of_le hfirst (UInt64.le_trans (UInt64.le_of_lt hspan) hnext)

end First

/-- **The tokens behind the first** are those from where it stops. -/
theorem tail {t : Token} {e : Nat} (h : LexedFrom src a (t :: ts))
    (hstop : t.stop = Input.start src e) (hae : a ≤ e) : LexedFrom src e ts := by
  obtain ⟨hfirst, hordered⟩ := List.pairwise_cons.mp h.ordered
  refine ⟨hordered, fun u hu => h.spelled u (List.mem_cons_of_mem t hu),
    fun u hu => hstop ▸ hfirst u hu, ?_⟩
  intro k x hk hx hout
  refine h.space k x (Nat.le_trans hae hk) hx (List.forall_mem_cons.mpr ⟨.inr ?_, hout⟩)
  rw [hstop]
  exact start_le_start hk

end LexedFrom

/-- **Tokens in order give a listing.** -/
theorem listing_of_lexedFrom (h : LexedFrom src a ts) : Listing src a ts := by
  induction ts generalizing a with
  | nil =>
    refine .done ?_
    intro x hx
    obtain ⟨j, hj⟩ := List.mem_iff_getElem?.mp hx
    rw [left, List.getElem?_drop] at hj
    exact h.space (a + j) x (Nat.le_add_right a j) hj (List.forall_mem_nil _)
  | cons t ts ih =>
    obtain ⟨b, s, r, hleft, hstart, hstop, hspells⟩ :=
      spelled_iff.mp (h.spelled t List.mem_cons_self)
    obtain ⟨hpos, hle⟩ := length_lt_of_spells hleft hspells
    have hab := h.le_place hstart (by omega)
    have hsplit : left src a = (left src a).take (b - a) ++ (s ++ r) := by
      rw [← hleft, ← Nat.add_sub_of_le hab, ← drop_left, Nat.add_sub_of_le hab,
        List.take_append_drop]
    have hlength : a + ((left src a).take (b - a)).length = b := by
      rw [List.length_take, length_left]
      omega
    have hlisting := Listing.token hsplit (h.space_before_first hstart (by omega)) hspells
      (hlength.symm ▸ ih (h.tail hstop (by omega)))
    rwa [hlength, String.ofList_toList, ← hstart, ← hstop] at hlisting

/-- **A source has just the tokens that reading finds**, whatever is taken for a letter and for a
numeral. -/
theorem lex_eq_ok_iff (src : Text) (ts : List Token) : lex src = .ok ts ↔ Lexed src ts := by
  rw [lexed_iff_lexedFrom, lex, ofInput_eq_before]
  exact ⟨fun h => lexedFrom_of_listing (listing_of_lexFrom h),
    fun h => lexFrom_of_listing (listing_of_lexedFrom h)⟩

end Reading

example : lex ⟨"コード/* 々 */²", by decide⟩ =
    .ok [⟨.word, "コード", 0, 9⟩, ⟨.comment, "々", 9, 18⟩, ⟨.punctuation, "²", 18, 20⟩] := by
  decide +kernel

end Token

end ForwardCursor
