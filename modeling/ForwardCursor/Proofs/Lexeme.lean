import ForwardCursor.Proofs.Boundary.Text
import ForwardCursor.Proofs.Passage
import ForwardCursor.Proofs.Spelling

/-!
# Proofs/Lexeme — reading one token

Before the characters that are left, reading a token of each kind comes to one result: the token and
the cursor behind it, or the end of the source where a closing mark is missing.  So a token that is
read is spelled by the characters it is read from (`spelledAt_of_lexeme`), and a token that they
spell is read (`lexeme_of_spells`).
-/

namespace ForwardCursor

namespace Token

/-! ## One token of each kind, read off the characters that are left -/

open Cursor Input

variable {src : Text} {k : Nat} {cs : List Char}

/-- **The text of a part** is the characters between its ends. -/
theorem string_part (src : Text) (k n : Nat) :
    (part src k (k + n)).string = String.ofList ((left src k).take n) := by
  have hlist : (part src k (k + n)).string.toList = (left src k).take n := toList_part_add src k n
  rw [← hlist, String.ofList_toList]

theorem scanned_before (kind : TokenKind) (read : String → String) (src : Text) (k : Nat)
    (m : Move Char) :
    scanned kind read (before src k) m =
      .ok ⟨kind, read (String.ofList ((left src k).take (m.passed (left src k)))),
        before src (k + m.passed (left src k))⟩ := by
  rw [scanned, scan_before, skip_before, ← string_part]
  rfl

theorem word_before [Character.Classes] (src : Text) (k : Nat) :
    word (before src k) = .ok ⟨.word, String.ofList ((left src k).takeWhile continuesWord),
      before src (k + ((left src k).takeWhile continuesWord).length)⟩ := by
  rw [word, scanned_before, Move.passed, Predicate.accepted_ofFun, take_length_takeWhile]
  rfl

theorem number_before (src : Text) (k : Nat) :
    number (before src k) = .ok ⟨.number, String.ofList ((left src k).takeWhile isDigit),
      before src (k + ((left src k).takeWhile isDigit).length)⟩ := by
  rw [number, scanned_before, Move.passed, take_length_takeWhile]
  rfl

theorem punctuation_before {x : Char} (h : left src k = x :: cs) :
    punctuation (before src k) = .ok ⟨.punctuation, String.ofList [x], before src (k + 1)⟩ := by
  have hpassed : Move.passed (.count 1 : Move Char) (x :: cs) = 1 :=
    Nat.min_eq_left (Nat.succ_le_succ (Nat.zero_le _))
  rw [punctuation, scanned_before, h, hpassed]
  rfl

/-- **The marks that open a comment** are passed. -/
theorem skip_count_two_before {x y : Char} (h : left src k = x :: y :: cs) :
    ((before src k).skip (.count 2 : Move Char)).cursor = before src (k + 2) := by
  have hpassed : Move.passed (.count 2 : Move Char) (x :: y :: cs) = 2 :=
    Nat.min_eq_left (Nat.succ_le_succ (Nat.succ_le_succ (Nat.zero_le _)))
  rw [skip_before, h, hpassed]

theorem lineComment_before {x y : Char} (h : left src k = x :: y :: cs) :
    lineComment (before src k) =
      .ok ⟨.comment, String.ofList (Character.trimmed (cs.takeWhile (· != '\n'))),
        before src (k + 2 + (cs.takeWhile (· != '\n')).length)⟩ := by
  have hleft : left src (k + 2) = cs := left_succ (left_succ h)
  rw [lineComment, skip_count_two_before h, scanned_before, hleft, Move.passed,
    take_length_takeWhile, trim, String.toList_ofList]

theorem blockComment_before {x y : Char} (h : left src k = x :: y :: cs) :
    blockComment (before src k) =
      if firstOccurrence closeMark cs < cs.length then
        .ok ⟨.comment, String.ofList (Character.trimmed (cs.take (firstOccurrence closeMark cs))),
          before src (k + 2 + firstOccurrence closeMark cs + 2)⟩
      else .error (.unmet (.endOfInput src.size)) := by
  have hleft : left src (k + 2) = cs := left_succ (left_succ h)
  have hclose : left src (k + 2 + firstOccurrence closeMark cs) =
      cs.drop (firstOccurrence closeMark cs) := by
    rw [← drop_left, hleft]
  have hexpect := expectSequence_before src closeMark (k + 2 + firstOccurrence closeMark cs)
  rw [blockComment, skip_count_two_before h, scanned_before, hleft, Move.passed]
  by_cases hlt : firstOccurrence closeMark cs < cs.length
  · rw [hclose, if_pos (startsWith_drop_firstOccurrence hlt)] at hexpect
    simp only [hexpect, trim, String.toList_ofList, if_pos hlt]
    rfl
  · have hnil : left src (k + 2 + firstOccurrence closeMark cs) = [] :=
      hclose.trans (List.drop_of_length_le (Nat.not_lt.mp hlt))
    have hend : Input.start src (k + 2 + firstOccurrence closeMark cs) = src.size :=
      start_of_length_le (List.drop_eq_nil_iff.mp hnil)
    have hnone : ¬ StartsWith closeMark (left src (k + 2 + firstOccurrence closeMark cs)) := by
      rw [hnil]
      exact not_startsWith_cons_nil _ _
    rw [if_neg hnone, hnil] at hexpect
    simp only [hexpect, if_neg hlt]
    exact congrArg (fun i => Except.error (LexError.unmet (.endOfInput i))) hend

theorem quoted_before {x : Char} (h : left src k = x :: cs) :
    quoted (before src k) =
      if '"' ∈ cs then
        .ok ⟨.string, String.ofList (cs.takeWhile (· != '"')),
          before src (k + 1 + (cs.takeWhile (· != '"')).length + 1)⟩
      else .error (.unmet (.endOfInput src.size)) := by
  have hleft : left src (k + 1) = cs := left_succ h
  have hclose : left src (k + 1 + (cs.takeWhile (· != '"')).length) = cs.dropWhile (· != '"') := by
    rw [← drop_left, hleft, drop_length_takeWhile]
  rw [quoted, advance_before, scanned_before, hleft, Move.passed, take_length_takeWhile]
  by_cases hmem : '"' ∈ cs
  · obtain ⟨ds, hds⟩ := dropWhile_ne_of_mem hmem
    simp only [expectElement_of_cons '"' (hclose.trans hds), if_pos hmem, beq_self_eq_true, if_true]
    rfl
  · have hnil := hclose.trans (dropWhile_ne_of_not_mem hmem)
    have hend : Input.start src (k + 1 + (cs.takeWhile (· != '"')).length) = src.size :=
      start_of_length_le (List.drop_eq_nil_iff.mp hnil)
    simp only [expectElement_of_nil '"' hnil, if_neg hmem]
    exact congrArg (fun i => Except.error (LexError.unmet (.endOfInput i))) hend

/-- **Two characters are next** if what is left starts with them. -/
theorem startsWith_pair_before {x y : Char} :
    (before src k).startsWith [x, y] = true ↔ ∃ cs, left src k = x :: y :: cs := by
  rw [startsWith_before, List.isEmpty_cons, Bool.not_false, Bool.true_and, decide_eq_true_eq,
    startsWith_iff_isPrefix]
  exact ⟨fun ⟨cs, h⟩ => ⟨cs, h.symm⟩, fun ⟨cs, h⟩ => ⟨cs, h.symm⟩⟩

/-- Two characters are not next if the first of them is another. -/
theorem startsWith_pair_before_eq_false {x y z : Char} (hleft : left src k = x :: cs)
    (hxy : x ≠ y) : (before src k).startsWith [y, z] = false := by
  rw [← Bool.not_eq_true, startsWith_pair_before, hleft]
  rintro ⟨ds, hds⟩
  exact hxy (List.cons.inj hds).1

theorem takeWhile_ne_append {s r : List Char} {y : Char} (hs : y ∉ s) (hr : ∀ z ∈ r.head?, z = y) :
    (s ++ r).takeWhile (· != y) = s := by
  refine takeWhile_append_of_head? ?_ ?_
  · intro z hz
    exact bne_iff_ne.mpr (ne_of_mem_of_not_mem hz hs)
  · intro z hz
    rw [hr z hz, bne_self_eq_false]

/-! ## What is read is spelled as it should be -/

variable [Character.Classes]

/-- **A token that is where it should be** — it is spelled by characters that are left, and reading
goes on behind them. -/
def SpelledAt (src : Text) (k : Nat) (l : Lexeme) : Prop :=
  ∃ s r, left src k = s ++ r ∧ Spells l.kind s r l.text.toList ∧
    l.cursor = before src (k + s.length)

theorem spelledAt_of_spells {kind : TokenKind} {s r text : List Char} {n : Nat}
    (hleft : left src k = s ++ r) (h : Spells kind s r text) (hn : n = k + s.length) :
    SpelledAt src k ⟨kind, String.ofList text, before src n⟩ := by
  refine ⟨s, r, hleft, ?_, congrArg (before src) hn⟩
  rwa [String.toList_ofList]

section Sound

variable {x : Char} {l : Lexeme}

theorem spelledAt_word (hleft : left src k = x :: cs) (hx : startsWord x = true)
    (h : word (before src k) = .ok l) : SpelledAt src k l := by
  rw [word_before, hleft] at h
  rw [← Except.ok.inj h]
  exact spelledAt_of_spells (hleft.trans List.takeWhile_append_dropWhile.symm) (spells_word hx) rfl

theorem spelledAt_number (hleft : left src k = x :: cs) (hx : isDigit x = true)
    (h : number (before src k) = .ok l) : SpelledAt src k l := by
  rw [number_before, hleft] at h
  rw [← Except.ok.inj h]
  exact spelledAt_of_spells (hleft.trans List.takeWhile_append_dropWhile.symm)
    (spells_number hx) rfl

theorem spelledAt_lineComment (hleft : left src k = '/' :: '/' :: cs)
    (h : lineComment (before src k) = .ok l) : SpelledAt src k l := by
  rw [lineComment_before hleft] at h
  rw [← Except.ok.inj h]
  refine spelledAt_of_spells ?_ (spells_lineComment cs) ?_
  · rw [List.cons_append, List.cons_append, List.takeWhile_append_dropWhile, hleft]
  · rw [List.length_cons, List.length_cons]
    omega

theorem spelledAt_blockComment (hleft : left src k = '/' :: '*' :: cs)
    (h : blockComment (before src k) = .ok l) : SpelledAt src k l := by
  rw [blockComment_before hleft] at h
  split at h
  · next hlt =>
    rw [← Except.ok.inj h]
    refine spelledAt_of_spells ?_ (spells_blockComment hlt) ?_
    · rw [List.cons_append, List.cons_append, ← eq_take_append_closeMark hlt, hleft]
    · rw [List.length_cons, List.length_cons, List.length_append, List.length_take,
        Nat.min_eq_left (Nat.le_of_lt hlt), closeMark, List.length_cons, List.length_singleton]
      omega
  · cases h

theorem spelledAt_quoted (hleft : left src k = '"' :: cs) (h : quoted (before src k) = .ok l) :
    SpelledAt src k l := by
  rw [quoted_before hleft] at h
  split at h
  · next hmem =>
    rw [← Except.ok.inj h]
    refine spelledAt_of_spells ?_ (spells_quoted cs) ?_
    · rw [List.cons_append, ← eq_takeWhile_append_quote hmem, hleft]
    · rw [List.length_cons, List.length_append, List.length_singleton]
      omega
  · cases h

theorem spelledAt_punctuation (hleft : left src k = x :: cs) (hspace : isSpace x = false)
    (hword : startsWord x = false) (hdigit : isDigit x = false) (hquote : x ≠ '"')
    (hline : (before src k).startsWith ['/', '/'] = false)
    (hblock : (before src k).startsWith ['/', '*'] = false)
    (h : punctuation (before src k) = .ok l) : SpelledAt src k l := by
  rw [punctuation_before hleft] at h
  rw [← Except.ok.inj h]
  refine spelledAt_of_spells hleft (.punctuation (isSpace_eq_false_iff.mp hspace)
    (startsWord_eq_false_iff.mp hword) (isDigit_eq_false_iff.mp hdigit) hquote ?_) rfl
  rintro ⟨rfl, y, hy, rfl | rfl⟩
  · obtain ⟨ds, rfl⟩ := List.head?_eq_some_iff.mp hy
    exact Bool.false_ne_true (hline.symm.trans (startsWith_pair_before.mpr ⟨ds, hleft⟩))
  · obtain ⟨ds, rfl⟩ := List.head?_eq_some_iff.mp hy
    exact Bool.false_ne_true (hblock.symm.trans (startsWith_pair_before.mpr ⟨ds, hleft⟩))

/-- **A token that is read is where it should be.** -/
theorem spelledAt_of_lexeme (hleft : left src k = x :: cs) (hspace : isSpace x = false)
    (h : lexeme (before src k) x = .ok l) : SpelledAt src k l := by
  unfold lexeme at h
  split at h
  · next hword => exact spelledAt_word hleft hword h
  · next hword =>
  split at h
  · next hdigit => exact spelledAt_number hleft hdigit h
  · next hdigit =>
  split at h
  · next hline =>
    obtain ⟨ds, hds⟩ := startsWith_pair_before.mp hline
    exact spelledAt_lineComment hds h
  · next hline =>
  split at h
  · next hblock =>
    obtain ⟨ds, hds⟩ := startsWith_pair_before.mp hblock
    exact spelledAt_blockComment hds h
  · next hblock =>
  split at h
  · next hquote => exact spelledAt_quoted (beq_iff_eq.mp hquote ▸ hleft) h
  · next hquote =>
    rw [Bool.not_eq_true] at hword hdigit hline hblock
    exact spelledAt_punctuation hleft hspace hword hdigit (mt beq_iff_eq.mpr hquote) hline hblock h

end Sound

/-! ## What is spelled as it should be is read -/

section Complete

variable {x : Char} {s r text : List Char}

theorem lexeme_word (hx : Character.isLetter x = true ∨ x = '_')
    (hs : ∀ y ∈ s, Character.isLetterOrNumeral y = true ∨ y = '_')
    (hr : ∀ y ∈ r.head?, ¬ (Character.isLetterOrNumeral y = true ∨ y = '_'))
    (hleft : left src k = x :: s ++ r) : lexeme (before src k) x =
      .ok ⟨.word, String.ofList (x :: s), before src (k + (x :: s).length)⟩ := by
  have hstart : startsWord x = true := startsWord_iff.mpr hx
  have hgoes : ∀ y ∈ x :: s, continuesWord y = true := List.forall_mem_cons.mpr
    ⟨continuesWord_of_startsWord hstart, fun y hy => continuesWord_iff.mpr (hs y hy)⟩
  have hrun : (x :: s ++ r).takeWhile continuesWord = x :: s :=
    takeWhile_append_of_head? hgoes fun y hy => continuesWord_eq_false_iff.mpr (hr y hy)
  rw [lexeme, if_pos hstart, word_before, hleft, hrun]

theorem lexeme_number (hs : ∀ y ∈ x :: s, '0' ≤ y ∧ y ≤ '9')
    (hr : ∀ y ∈ r.head?, ¬ ('0' ≤ y ∧ y ≤ '9')) (hleft : left src k = x :: s ++ r) :
    lexeme (before src k) x =
      .ok ⟨.number, String.ofList (x :: s), before src (k + (x :: s).length)⟩ := by
  have hdigits : ∀ y ∈ x :: s, isDigit y = true := fun y hy => isDigit_iff.mpr (hs y hy)
  have hx := hdigits x List.mem_cons_self
  have hrun : (x :: s ++ r).takeWhile isDigit = x :: s :=
    takeWhile_append_of_head? hdigits fun y hy => isDigit_eq_false_iff.mpr (hr y hy)
  rw [lexeme, startsWord_eq_false_of_isDigit hx, if_neg Bool.false_ne_true, if_pos hx,
    number_before, hleft, hrun]

/-- A token that starts with neither a letter nor a digit is told by its marks. -/
theorem lexeme_of_mark {c : Cursor Text} (hword : startsWord x = false)
    (hdigit : isDigit x = false) :
    lexeme c x = if c.startsWith ['/', '/'] then lineComment c
      else if c.startsWith ['/', '*'] then blockComment c
      else if x == '"' then quoted c
      else punctuation c := by
  rw [lexeme, hword, hdigit, if_neg Bool.false_ne_true, if_neg Bool.false_ne_true]

/-- **A quote starts a string.** -/
theorem lexeme_quote (hleft : left src k = '"' :: cs) :
    lexeme (before src k) '"' = quoted (before src k) := by
  rw [lexeme_of_mark startsWord_quote (by decide),
    startsWith_pair_before_eq_false hleft (by decide),
    startsWith_pair_before_eq_false hleft (by decide), if_neg Bool.false_ne_true,
    if_neg Bool.false_ne_true, if_pos (beq_self_eq_true '"')]

theorem lexeme_string (hs : '"' ∉ s) (hleft : left src k = '"' :: (s ++ ['"']) ++ r) :
    lexeme (before src k) '"' =
      .ok ⟨.string, String.ofList s, before src (k + ('"' :: (s ++ ['"'])).length)⟩ := by
  rw [List.cons_append, List.append_assoc] at hleft
  have hrun : (s ++ (['"'] ++ r)).takeWhile (· != '"') = s :=
    takeWhile_ne_append hs fun z hz => (Option.some.inj hz).symm
  have hmem : '"' ∈ s ++ (['"'] ++ r) := List.mem_append_right _ List.mem_cons_self
  rw [lexeme_quote hleft, quoted_before hleft, if_pos hmem, hrun, List.length_cons,
    List.length_append, List.length_singleton]
  congr 3
  omega

theorem lexeme_lineComment (hs : '\n' ∉ s) (hr : ∀ y ∈ r.head?, y = '\n')
    (htext : Character.Trimmed s text) (hleft : left src k = '/' :: '/' :: s ++ r) :
    lexeme (before src k) '/' =
      .ok ⟨.comment, String.ofList text, before src (k + ('/' :: '/' :: s).length)⟩ := by
  rw [List.cons_append, List.cons_append] at hleft
  rw [lexeme_of_mark startsWord_slash (by decide), if_pos (startsWith_pair_before.mpr ⟨_, hleft⟩),
    lineComment_before hleft, takeWhile_ne_append hs hr, htext.trimmed_eq, List.length_cons,
    List.length_cons]
  congr 3
  omega

/-- **A slash and a star start a comment.** -/
theorem lexeme_slash_star (hleft : left src k = '/' :: '*' :: cs) :
    lexeme (before src k) '/' = blockComment (before src k) := by
  have hline : ¬ (before src k).startsWith ['/', '/'] = true := by
    rw [startsWith_pair_before, hleft]
    rintro ⟨ds, hds⟩
    exact absurd (List.cons.inj (List.cons.inj hds).2).1 (by decide)
  rw [lexeme_of_mark startsWord_slash (by decide), if_neg hline,
    if_pos (startsWith_pair_before.mpr ⟨_, hleft⟩)]

theorem lexeme_blockComment (hs : ∀ p q, s ++ ['*', '/'] = p ++ ['*', '/'] ++ q → q = [])
    (htext : Character.Trimmed s text) (hleft : left src k = '/' :: '*' :: (s ++ ['*', '/']) ++ r) :
    lexeme (before src k) '/' = .ok ⟨.comment, String.ofList text,
      before src (k + ('/' :: '*' :: (s ++ ['*', '/'])).length)⟩ := by
  rw [List.cons_append, List.cons_append] at hleft
  have hfirst : firstOccurrence closeMark (s ++ ['*', '/'] ++ r) = s.length :=
    firstOccurrence_append_self r (List.cons_ne_nil _ _) hs
  have hlt : s.length < (s ++ ['*', '/'] ++ r).length := by
    rw [List.length_append, List.length_append, List.length_cons]
    omega
  rw [lexeme_slash_star hleft, blockComment_before hleft, hfirst, if_pos hlt, List.append_assoc,
    List.take_left, htext.trimmed_eq, List.length_cons, List.length_cons, List.length_append,
    List.length_cons, List.length_singleton]
  congr 3
  omega

theorem lexeme_punctuation (hword : ¬ (Character.isLetter x = true ∨ x = '_'))
    (hdigit : ¬ ('0' ≤ x ∧ x ≤ '9')) (hquote : x ≠ '"')
    (hmark : ¬ (x = '/' ∧ ∃ y ∈ r.head?, y = '/' ∨ y = '*')) (hleft : left src k = x :: r) :
    lexeme (before src k) x = .ok ⟨.punctuation, String.ofList [x], before src (k + 1)⟩ := by
  rw [← startsWord_eq_false_iff] at hword
  rw [← isDigit_eq_false_iff] at hdigit
  have hpair : ∀ y, y = '/' ∨ y = '*' → ¬ (before src k).startsWith ['/', y] = true := by
    intro y hy hstarts
    obtain ⟨ds, hds⟩ := startsWith_pair_before.mp hstarts
    obtain ⟨rfl, rfl⟩ := List.cons.inj (hleft.symm.trans hds)
    exact hmark ⟨rfl, y, rfl, hy⟩
  rw [lexeme_of_mark hword hdigit, if_neg (hpair '/' (.inl rfl)), if_neg (hpair '*' (.inr rfl)),
    if_neg (by simpa using hquote), punctuation_before hleft]

/-- **A token that is where it should be is read.** -/
theorem lexeme_of_spells {kind : TokenKind} (h : Spells kind (x :: s) r text)
    (hleft : left src k = x :: s ++ r) : lexeme (before src k) x =
      .ok ⟨kind, String.ofList text, before src (k + (x :: s).length)⟩ := by
  rcases h with ⟨hx, hs, hr⟩ | ⟨-, hs, hr⟩ | hs | ⟨hs, hr, htext⟩ | ⟨hs, htext⟩ |
    ⟨-, hword, hdigit, hquote, hmark⟩
  · exact lexeme_word hx hs hr hleft
  · exact lexeme_number hs hr hleft
  · exact lexeme_string hs hleft
  · exact lexeme_lineComment hs hr htext hleft
  · exact lexeme_blockComment hs htext hleft
  · exact lexeme_punctuation hword hdigit hquote hmark hleft

end Complete

end Token

end ForwardCursor
