import ForwardCursor.Proofs.Trimming
import ForwardCursor.Token.Lexer

/-!
# Proofs/Spelling — what a token is spelled by

`Spells kind s r text` says that the characters `s`, followed by `r`, are a token of a kind that
says `text`.  It does not say how a token is found: a word and a number are as long as they can be,
a string stops at the first quote, and a comment at the end of its line or at the first closing
mark.  Each kind is spelled by what a run or a search takes from the characters that are left.

What is a letter and what is a numeral is left open.  Of the characters that the grammar names the
classes say what ASCII does (`startsWord_ascii`, `continuesWord_ascii`), and that is enough.
-/

namespace ForwardCursor

namespace Token

open Character

/-! ## The characters of the grammar -/

section Characters

variable {x : Char}

theorem isSpace_iff : isSpace x = true ↔ x ∈ [' ', '\t', '\r', '\n'] := by
  have hlist : " \t\r\n".toList = [' ', '\t', '\r', '\n'] := by decide
  rw [isSpace, (Acceptor.lists_string _).accepts_iff_mem, hlist]

theorem isSpace_eq_false_iff : isSpace x = false ↔ x ∉ [' ', '\t', '\r', '\n'] := by
  rw [← isSpace_iff, Bool.not_eq_true]

theorem eq_of_isSpace (h : isSpace x = true) : x = ' ' ∨ x = '\t' ∨ x = '\r' ∨ x = '\n' := by
  have hx := isSpace_iff.mp h
  simp only [List.mem_cons, List.not_mem_nil, or_false] at hx
  exact hx

theorem isDigit_iff : isDigit x = true ↔ '0' ≤ x ∧ x ≤ '9' := Acceptor.accepts_rcc_iff

theorem isDigit_eq_false_iff : isDigit x = false ↔ ¬ ('0' ≤ x ∧ x ≤ '9') := by
  rw [← isDigit_iff, Bool.not_eq_true]

theorem isSpace_eq_false_of_isDigit (h : isDigit x = true) : isSpace x = false := by
  by_contra hspace
  rw [Bool.not_eq_false] at hspace
  rcases eq_of_isSpace hspace with rfl | rfl | rfl | rfl
  all_goals exact absurd h (by decide)

variable [Classes]

theorem startsWord_iff : startsWord x = true ↔ isLetter x = true ∨ x = '_' := by
  rw [startsWord, Bool.or_eq_true, beq_iff_eq]

theorem startsWord_eq_false_iff : startsWord x = false ↔ ¬ (isLetter x = true ∨ x = '_') := by
  rw [← startsWord_iff, Bool.not_eq_true]

theorem continuesWord_iff : continuesWord x = true ↔ isLetterOrNumeral x = true ∨ x = '_' := by
  rw [continuesWord, Bool.or_eq_true, beq_iff_eq]

theorem continuesWord_eq_false_iff :
    continuesWord x = false ↔ ¬ (isLetterOrNumeral x = true ∨ x = '_') := by
  rw [← continuesWord_iff, Bool.not_eq_true]

theorem startsWord_ascii (h : x.toNat < 128) :
    startsWord x = (within asciiLetters x || x == '_') := by
  rw [startsWord, Classes.isLetter_ascii h]

theorem continuesWord_ascii (h : x.toNat < 128) :
    continuesWord x = (within asciiLetters x || within asciiNumerals x || x == '_') := by
  rw [continuesWord, isLetterOrNumeral_ascii h]

/-- A quote starts no word. -/
theorem startsWord_quote : startsWord '"' = false := startsWord_ascii (by decide)

/-- A slash starts no word. -/
theorem startsWord_slash : startsWord '/' = false := startsWord_ascii (by decide)

/-- No word goes on with a line break. -/
theorem continuesWord_break : continuesWord '\n' = false := continuesWord_ascii (by decide)

/-- **No decimal digit starts a word.** -/
theorem startsWord_eq_false_of_isDigit (h : isDigit x = true) : startsWord x = false := by
  obtain ⟨hlo, hhi⟩ := isDigit_iff.mp h
  have hcode : 48 ≤ x.toNat ∧ x.toNat ≤ 57 := ⟨hlo, hhi⟩
  have hletter : within asciiLetters x = false := by
    simp only [within, asciiLetters, List.any_cons, List.any_nil, Bool.or_false,
      Bool.or_eq_false_iff, Bool.and_eq_false_imp, decide_eq_true_eq, decide_eq_false_iff_not]
    omega
  rw [startsWord_ascii (by omega), hletter, Bool.false_or]
  refine beq_false_of_ne ?_
  rintro rfl
  exact absurd hhi (by decide)

theorem isSpace_eq_false_of_startsWord (h : startsWord x = true) : isSpace x = false := by
  by_contra hspace
  rw [Bool.not_eq_false] at hspace
  rcases eq_of_isSpace hspace with rfl | rfl | rfl | rfl
  all_goals
    rw [startsWord_ascii (by decide)] at h
    exact absurd h (by decide)

end Characters

/-! ## Behind a closing mark -/

section Closing

variable {cs : List Char}

/-- **Behind the first closing mark** the source goes on. -/
theorem eq_take_append_closeMark (h : firstOccurrence closeMark cs < cs.length) :
    cs = cs.take (firstOccurrence closeMark cs) ++ closeMark ++
      cs.drop (firstOccurrence closeMark cs + 2) := by
  obtain ⟨ds, hds⟩ := startsWith_iff_isPrefix.mp (startsWith_drop_firstOccurrence h)
  have hdrop : cs.drop (firstOccurrence closeMark cs + 2) = ds := by
    rw [← List.drop_drop, ← hds]
    rfl
  rw [hdrop, List.append_assoc, hds, List.take_append_drop]

/-- **Behind the first quote** the source goes on. -/
theorem eq_takeWhile_append_quote (h : '"' ∈ cs) :
    cs = cs.takeWhile (· != '"') ++ ['"'] ++ cs.drop ((cs.takeWhile (· != '"')).length + 1) := by
  obtain ⟨ds, hds⟩ := dropWhile_ne_of_mem h
  have hdrop : cs.drop ((cs.takeWhile (· != '"')).length + 1) = ds := by
    rw [← List.drop_drop, drop_length_takeWhile, hds, List.drop_one, List.tail_cons]
  rw [hdrop, List.append_assoc, List.singleton_append, ← hds, List.takeWhile_append_dropWhile]

end Closing

/-! ## What is read -/

variable [Classes]

/-- **What a token is read from** — the characters `s`, followed by `r`, are a token of a kind that
says `text`. -/
inductive Spells : TokenKind → (s r text : List Char) → Prop
  /-- A word starts with a letter or `_`, and goes on with letters, numerals and `_` as long as it
  can. -/
  | word {x : Char} {s r : List Char} : isLetter x = true ∨ x = '_' →
    (∀ y ∈ s, isLetterOrNumeral y = true ∨ y = '_') →
    (∀ y ∈ r.head?, ¬ (isLetterOrNumeral y = true ∨ y = '_')) →
    Spells .word (x :: s) r (x :: s)
  /-- A number is one digit or more, as many as there are. -/
  | number {s r : List Char} : s ≠ [] → (∀ y ∈ s, '0' ≤ y ∧ y ≤ '9') →
    (∀ y ∈ r.head?, ¬ ('0' ≤ y ∧ y ≤ '9')) → Spells .number s r s
  /-- A string stands between quotes. -/
  | string {s r : List Char} : '"' ∉ s → Spells .string ('"' :: (s ++ ['"'])) r s
  /-- A comment after two slashes goes on to the end of its line. -/
  | lineComment {s r text : List Char} : '\n' ∉ s → (∀ y ∈ r.head?, y = '\n') →
    Trimmed s text → Spells .comment ('/' :: '/' :: s) r text
  /-- A comment after a slash and a star goes on to the first closing mark. -/
  | blockComment {s r text : List Char} :
    (∀ p q, s ++ ['*', '/'] = p ++ ['*', '/'] ++ q → q = []) → Trimmed s text →
    Spells .comment ('/' :: '*' :: (s ++ ['*', '/'])) r text
  /-- Any other character stands by itself. -/
  | punctuation {x : Char} {r : List Char} : x ∉ [' ', '\t', '\r', '\n'] →
    ¬ (isLetter x = true ∨ x = '_') → ¬ ('0' ≤ x ∧ x ≤ '9') → x ≠ '"' →
    ¬ (x = '/' ∧ ∃ y ∈ r.head?, y = '/' ∨ y = '*') → Spells .punctuation [x] r [x]

/-- **A token starts with something**, and not with a space. -/
theorem Spells.exists_cons {kind : TokenKind} {s r text : List Char} (h : Spells kind s r text) :
    ∃ x xs, s = x :: xs ∧ isSpace x = false := by
  rcases h with ⟨hx, -, -⟩ | ⟨hne, hdigits, -⟩ | - | - | - | ⟨hx, -, -, -, -⟩
  · exact ⟨_, _, rfl, isSpace_eq_false_of_startsWord (startsWord_iff.mpr hx)⟩
  · obtain ⟨x, xs, rfl⟩ := List.exists_cons_of_ne_nil hne
    exact ⟨x, xs, rfl, isSpace_eq_false_of_isDigit (isDigit_iff.mpr (hdigits x List.mem_cons_self))⟩
  · exact ⟨_, _, rfl, by decide⟩
  · exact ⟨_, _, rfl, by decide⟩
  · exact ⟨_, _, rfl, by decide⟩
  · exact ⟨_, _, rfl, isSpace_eq_false_iff.mpr hx⟩

/-! ## What runs and searches take spells a token -/

variable {x : Char} {cs : List Char}

theorem spells_word (h : startsWord x = true) :
    Spells .word ((x :: cs).takeWhile continuesWord) ((x :: cs).dropWhile continuesWord)
      ((x :: cs).takeWhile continuesWord) := by
  have hx := continuesWord_of_startsWord h
  rw [List.takeWhile_cons_of_pos hx, List.dropWhile_cons_of_pos hx]
  refine .word (startsWord_iff.mp h)
    (fun y hy => continuesWord_iff.mp (List.mem_takeWhile_imp hy)) ?_
  intro y hy
  exact continuesWord_eq_false_iff.mp (of_mem_head?_dropWhile continuesWord cs y hy)

theorem spells_number (h : isDigit x = true) :
    Spells .number ((x :: cs).takeWhile isDigit) ((x :: cs).dropWhile isDigit)
      ((x :: cs).takeWhile isDigit) := by
  refine .number ?_ (fun y hy => isDigit_iff.mp (List.mem_takeWhile_imp hy)) ?_
  · rw [List.takeWhile_cons_of_pos h]
    exact List.cons_ne_nil _ _
  · intro y hy
    exact isDigit_eq_false_iff.mp (of_mem_head?_dropWhile isDigit _ y hy)

theorem spells_lineComment (cs : List Char) :
    Spells .comment ('/' :: '/' :: cs.takeWhile (· != '\n')) (cs.dropWhile (· != '\n'))
      (trimmed (cs.takeWhile (· != '\n'))) := by
  refine .lineComment ?_ ?_ (trimmed_trimmed _)
  · intro h
    simpa using List.mem_takeWhile_imp h
  · intro y hy
    simpa using of_mem_head?_dropWhile (· != '\n') cs y hy

theorem spells_blockComment (h : firstOccurrence closeMark cs < cs.length) :
    Spells .comment ('/' :: '*' :: (cs.take (firstOccurrence closeMark cs) ++ closeMark))
      (cs.drop (firstOccurrence closeMark cs + 2))
      (trimmed (cs.take (firstOccurrence closeMark cs))) := by
  refine .blockComment ?_ (trimmed_trimmed _)
  intro p q hpq
  change _ ++ closeMark = p ++ closeMark ++ q at hpq
  by_contra hq
  have hlength := congrArg List.length hpq
  have hpos := List.length_pos_iff.mpr hq
  simp only [List.length_append, List.length_take, List.length_cons, List.length_nil, closeMark]
    at hlength
  -- an occurrence that is not at the end comes before the first
  have hbefore : p.length < firstOccurrence closeMark cs := by
    rw [closeMark] at h ⊢
    omega
  refine not_startsWith_of_lt_firstOccurrence hbefore ?_
  rw [eq_take_append_closeMark h, hpq, List.append_assoc, List.append_assoc, List.drop_left,
    startsWith_iff_isPrefix]
  exact List.prefix_append ..

theorem spells_quoted (cs : List Char) :
    Spells .string ('"' :: (cs.takeWhile (· != '"') ++ ['"']))
      (cs.drop ((cs.takeWhile (· != '"')).length + 1)) (cs.takeWhile (· != '"')) := by
  refine .string ?_
  intro h
  simpa using List.mem_takeWhile_imp h

end Token

end ForwardCursor
