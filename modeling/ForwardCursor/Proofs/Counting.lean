import ForwardCursor.Proofs.Safety

/-!
# Proofs/Counting — a number of elements is passed as if one by one

A count is a word, and so may be larger than what is left and, added to a position or to another
count, larger than any word.  Neither matters: an input has fewer elements than there are words
(`length_lt_size`), a count that is too large leads to the end, and there further steps lead nowhere
else.  So skipping, scanning and seeing ahead by a count all come to as many single steps, and two
counts in a row to their sum, or to the greatest word where the sum is none
(`everywhere_countsSteps`).
-/

namespace ForwardCursor

namespace Index

/-- **Addition that stops at the greatest word.** -/
def addUpToMax (m n : Index) : Index := (add? m n).getD (.ofNat (UInt64.size - 1))

theorem toNat_addUpToMax (m n : Index) :
    (addUpToMax m n).toNat = min (m.toNat + n.toNat) (UInt64.size - 1) := by
  rw [addUpToMax]
  cases h : add? m n with
  | some j =>
    have hj := add?_eq_some_iff.mp h
    have hlt : j.toNat < UInt64.size := j.toNat_lt
    rw [Option.getD_some, hj, Nat.min_eq_left (by omega)]
  | none =>
    have hle := add?_eq_none_iff.mp h
    rw [Option.getD_none, toNat_ofNat_of_lt (by decide), Nat.min_eq_right (by omega)]

end Index

/-- **As many elements as a sum** are as many as one number, and behind them the other. -/
theorem Move.passed_count_add {α : Type} [BEq α] (m n : Index) {xs : List α}
    (h : xs.length < UInt64.size) :
    passed (.count (m.addUpToMax n)) xs =
      passed (.count m) xs + passed (.count n) (xs.drop (passed (.count m) xs)) := by
  simp only [passed, Index.toNat_addUpToMax, List.length_drop]
  omega

open Input

namespace Cursor

variable {C α : Type} [Input C α] [BEq α]

/-- **A cursor that counts in single steps.** -/
structure CountsSteps (c : Cursor C) : Prop where
  /-- Passing a number of elements leads where passing as many one by one leads. -/
  skip (n : Index) : (c.skip (.count n)).cursor = (advance : Cursor C → Cursor C)^[n.toNat] c
  /-- Passing one number after another makes up passing their sum. -/
  add (m n : Index) : c.MakeUp (.count m) (.count n) (.count (m.addUpToMax n))
  /-- Scanning answers with the part that is seen ahead, which has as many elements as are asked
  for, or as are left. -/
  scan (n : Index) : ∃ o rest, c.scan (.count n) = .ok o ∧ c.ahead n = .ok o.value ∧
    c.rest = .ok rest ∧ (toList o.value).length = min n.toNat (toList rest).length
  /-- The element that is seen some elements ahead is the next one behind them. -/
  peek? (n : Index) : c.peek? n = (c.skip (.count n)).cursor.current?

variable [LawfulInput C]

omit [BEq α] in
theorem iterate_advance_before (c : C) (k n : Nat) :
    (advance : Cursor C → Cursor C)^[n] (before c k) = before c (k + n) := by
  induction n with
  | zero => rfl
  | succ n ih => rw [Function.iterate_succ_apply', ih, advance_before, Nat.add_assoc]

theorem cursor_skip_count_before (c : C) (k : Nat) (n : Index) :
    ((before c k).skip (.count n)).cursor = before c (k + n.toNat) := by
  rw [skip_before]
  exact before_add_min_length c k n.toNat

/-- **What a count scans** are the next elements. -/
theorem scan_count_before (c : C) (k : Nat) (n : Index) :
    ∃ o, (before c k).scan (.count n) = .ok o ∧ o.value = part c k (k + n.toNat) := by
  refine ⟨_, scan_before c k _, LawfulInput.ext_toList ?_⟩
  rw [Outcome.value_map, toList_part_add, toList_part_add, Move.passed, ← List.take_eq_take_min]

theorem countsSteps_before {c : C} {k : Nat} (hk : k ≤ (toList c).length) :
    (before c k).CountsSteps where
  skip n := by rw [cursor_skip_count_before, iterate_advance_before]
  add m n := makeUp_of_passed (Move.passed_count_add m n (length_left_lt_size c k))
  scan n := by
    obtain ⟨o, ho, hvalue⟩ := scan_count_before c k n
    refine ⟨o, _, ho, ?_, rest_before c hk, ?_⟩
    · rw [hvalue, ahead_before]
    · rw [hvalue, toList_part_add, toList_part_length hk, List.length_take]
  peek? n := by
    rw [peek?_before, cursor_skip_count_before, current?_before, left, List.head?_drop]

end Cursor

/-- **A number of elements is passed as if one by one.**  Wherever requests lead on a sequence or a
text, whatever the counts are, skipping, scanning and seeing ahead by a count come to as many single
steps. -/
theorem everywhere_countsSteps :
    (∀ (α : Type) [BEq α] (s : Sequence α), Cursor.Everywhere s Cursor.CountsSteps) ∧
    (∀ t : Text, Cursor.Everywhere t Cursor.CountsSteps) :=
  ⟨fun _ _ _ => Cursor.everywhere_of_before fun _ hk => Cursor.countsSteps_before hk,
    fun _ => Cursor.everywhere_of_before fun _ hk => Cursor.countsSteps_before hk⟩

end ForwardCursor
