import ForwardCursor.Proofs.Safety

/-!
# Proofs/Checked — an expectation is met where the move it checks passes something

What can be expected can also be skipped in silence: an element, a sequence, a run of members.  The
two are written apart, and agree.  An expectation is met just if scanning passes something, and then
leads to the same place and gives back what was passed; if it is not met, both stay where they are,
and the cause that is given lies ahead, at the end if the input ran out and at an element if it is
the wrong one (`everywhere_checksMoves`).

The empty sequence is the one exception.  It is always met and never passes anything.
-/

namespace ForwardCursor

open Input

namespace Cursor

variable {C α : Type} [Input C α]

/-- **A cause that lies ahead of a cursor.** -/
structure Blames (c : Cursor C) (cause : Unmet) : Prop where
  /-- Its index is not before the position… -/
  le_position : c.position ≤ cause.position
  /-- …and not past the end. -/
  position_le : cause.position ≤ c.size
  /-- An input that ran out did so at its end. -/
  endOfInput {i : Index} : cause = .endOfInput i → i = c.size
  /-- An element that is the wrong one is there. -/
  mismatch {i : Index} : cause = .mismatch i → ∃ x, get? c.input i = some x

/-- **An expectation that agrees with a scan** — from the outcomes of both; `gives b s` says that
what the one gives back is the part the other answers with. -/
structure Agrees {β : Type} (c : Cursor C) (gives : β → C → Prop)
    (expected : Outcome C α (Except Unmet β)) (scanned : Outcome C α C) : Prop where
  /-- The expectation is met just if the scan passes something. -/
  met_iff : (∃ b, expected.value = .ok b) ↔ toList scanned.value ≠ []
  /-- Then both lead to the same place and give back the same… -/
  met {b : β} : expected.value = .ok b → expected.cursor = scanned.cursor ∧ gives b scanned.value
  /-- …and otherwise both stay where they are. -/
  unmet {cause : Unmet} : expected.value = .error cause →
    expected.cursor = c ∧ scanned.cursor = c ∧ c.Blames cause

variable [BEq α]

/-- **A cursor whose expectations check its moves.** -/
structure ChecksMoves (c : Cursor C) : Prop where
  /-- Expecting an element agrees with scanning it, and gives back the only element of the part. -/
  element (y : α) : ∃ s, c.scan (.element y) = .ok s ∧
    c.Agrees (fun x span => toList span = [x]) (c.expectElement y) s
  /-- Expecting members agrees with scanning them, and gives back the part. -/
  members (accepts : α → Bool) : ∃ o, c.expectMembers accepts = .ok o ∧
    ∃ s, c.scan (.members accepts) = .ok s ∧ c.Agrees (· = ·) o s
  /-- Expecting a sequence that is not empty agrees with scanning it, and gives back the part; and
  it is met just if the sequence is seen to be next. -/
  sequence {ys : List α} : ys ≠ [] → ∃ o, c.expectSequence ys = .ok o ∧
    (∃ s, c.scan (.sequence ys) = .ok s ∧ c.Agrees (· = ·) o s) ∧
    ((∃ span, o.value = .ok span) ↔ c.startsWith ys = true)
  /-- The empty sequence is met without passing anything, and is not seen to be next. -/
  nil : c.startsWith [] = false ∧ ∃ span s, c.expectSequence [] = .ok (c.answer (.ok span)) ∧
    c.scan (.sequence []) = .ok s ∧ s.cursor = c ∧ toList span = [] ∧ toList s.value = []

variable [LawfulInput C] {c : C} {k : Nat}

/-! ## Causes -/

section Causes

omit [BEq α]

theorem blames_endOfInput {j : Nat} (h : (left c k).length ≤ j) :
    (before c k).Blames (.endOfInput (start c (k + j))) where
  le_position := start_le_start (Nat.le_add_right k j)
  position_le := start_le_size c _
  endOfInput h' := by
    rw [← Unmet.endOfInput.inj h']
    exact start_of_length_le (by rw [length_left] at h; omega)
  mismatch := nofun

theorem blames_endOfInput_of_nil (h : left c k = []) :
    (before c k).Blames (.endOfInput (start c k)) :=
  blames_endOfInput (j := 0) (Nat.le_of_eq (congrArg List.length h))

theorem blames_mismatch {j : Nat} (h : j < (left c k).length) :
    (before c k).Blames (.mismatch (start c (k + j))) where
  le_position := start_le_start (Nat.le_add_right k j)
  position_le := start_le_size c _
  endOfInput := nofun
  mismatch h' := by
    refine ⟨(left c k)[j], ?_⟩
    rw [← Unmet.mismatch.inj h', input_before, get?_start, ← List.getElem?_drop]
    exact List.getElem?_eq_getElem h

end Causes

/-- **Why a sequence is not there** lies ahead. -/
theorem blames_shortfall (ys : List α) (c : C) (k : Nat) :
    (before c k).Blames (shortfall ys (left c k) fun j => start c (k + j)) := by
  rw [shortfall]
  split
  · next h => exact blames_endOfInput (Nat.le_of_eq h.symm)
  · next h => exact blames_mismatch (Nat.lt_of_le_of_ne (agreement_le_right ys _) h)

/-! ## Agreement -/

section Agreement

variable {β : Type} {gives : β → C → Prop} {o : Outcome C α (Except Unmet β)} {m : Move α}

/-- **An expectation that is met** where the move passes something agrees with scanning it. -/
theorem agrees_of_met {b : β} (hpassed : m.passed (left c k) ≠ 0) (hvalue : o.value = .ok b)
    (hcursor : o.cursor = before c (k + m.passed (left c k)))
    (hgives : gives b (part c k (k + m.passed (left c k)))) :
    ∃ s, (before c k).scan m = .ok s ∧ (before c k).Agrees gives o s := by
  refine ⟨_, scan_before c k m, ?_, ?_, ?_⟩
  · rw [Outcome.value_map, toList_part_add, ne_eq, ← List.length_eq_zero_iff, List.length_take,
      Nat.min_eq_left (m.passed_le_length _)]
    exact iff_of_true ⟨b, hvalue⟩ hpassed
  · intro b' hvalue'
    obtain rfl := Except.ok.inj (hvalue.symm.trans hvalue')
    rw [skip_before]
    exact ⟨hcursor, hgives⟩
  · intro cause hcause
    exact nomatch hvalue.symm.trans hcause

/-- **An expectation that is not met** where the move passes nothing agrees with scanning it. -/
theorem agrees_of_unmet {cause : Unmet} (hpassed : m.passed (left c k) = 0)
    (hvalue : o.value = .error cause) (hcursor : o.cursor = before c k)
    (hblames : (before c k).Blames cause) :
    ∃ s, (before c k).scan m = .ok s ∧ (before c k).Agrees gives o s := by
  refine ⟨_, scan_before c k m, ?_, ?_, ?_⟩
  · rw [Outcome.value_map, hpassed, toList_part_add, List.take_zero]
    refine iff_of_false ?_ (not_not_intro rfl)
    rintro ⟨b, hb⟩
    exact nomatch hvalue.symm.trans hb
  · intro b hb
    exact nomatch hvalue.symm.trans hb
  · intro cause' hcause
    obtain rfl := Except.error.inj (hvalue.symm.trans hcause)
    rw [skip_before, hpassed]
    exact ⟨hcursor, rfl, hblames⟩

end Agreement

theorem agrees_element (c : C) (k : Nat) (y : α) :
    ∃ s, (before c k).scan (.element y) = .ok s ∧
      (before c k).Agrees (fun x span => toList span = [x]) ((before c k).expectElement y) s := by
  rcases hleft : left c k with _ | ⟨x, xs⟩
  · rw [expectElement_of_nil y hleft]
    exact agrees_of_unmet (by rw [hleft]; rfl) rfl rfl (blames_endOfInput_of_nil hleft)
  · rw [expectElement_of_cons y hleft]
    have hpassed : Move.passed (.element y) (left c k) = if x == y then 1 else 0 := by
      rw [hleft]
      rfl
    split
    · next hxy =>
      rw [if_pos hxy] at hpassed
      refine agrees_of_met (hpassed ▸ Nat.one_ne_zero) rfl (by rw [hpassed]; rfl) ?_
      rw [hpassed, toList_part_add, hleft]
      rfl
    · next hxy =>
      rw [if_neg hxy] at hpassed
      exact agrees_of_unmet hpassed rfl rfl (blames_mismatch (j := 0) (by rw [hleft]; simp))

theorem agrees_members (c : C) (k : Nat) (accepts : α → Bool) :
    ∃ o, (before c k).expectMembers accepts = .ok o ∧
      ∃ s, (before c k).scan (.members accepts) = .ok s ∧ (before c k).Agrees (· = ·) o s := by
  rcases hleft : left c k with _ | ⟨x, xs⟩
  · exact ⟨_, expectMembers_of_nil accepts hleft,
      agrees_of_unmet (by rw [hleft]; rfl) rfl rfl (blames_endOfInput_of_nil hleft)⟩
  · refine ⟨_, expectMembers_of_cons accepts hleft, ?_⟩
    have hpassed : Move.passed (.members accepts) (left c k) =
        ((x :: xs).takeWhile accepts).length := by
      rw [hleft]
      rfl
    split
    · next hx =>
      have hlength : ((x :: xs).takeWhile accepts).length ≠ 0 := by
        rw [List.takeWhile_cons_of_pos hx]
        exact Nat.succ_ne_zero _
      rw [← hpassed] at hlength ⊢
      exact agrees_of_met hlength rfl rfl rfl
    · next hx =>
      rw [List.takeWhile_cons_of_neg hx] at hpassed
      exact agrees_of_unmet hpassed rfl rfl (blames_mismatch (j := 0) (by rw [hleft]; simp))

theorem agrees_sequence (c : C) (k : Nat) {ys : List α} (hne : ys ≠ []) :
    ∃ o, (before c k).expectSequence ys = .ok o ∧
      (∃ s, (before c k).scan (.sequence ys) = .ok s ∧ (before c k).Agrees (· = ·) o s) ∧
      ((∃ span, o.value = .ok span) ↔ (before c k).startsWith ys = true) := by
  refine ⟨_, expectSequence_before c ys k, ?_⟩
  have hnext : (before c k).startsWith ys = true ↔ StartsWith ys (left c k) := by
    rw [startsWith_before, Bool.and_eq_true, decide_eq_true_eq, Bool.not_eq_true',
      List.isEmpty_eq_false_iff]
    exact and_iff_right hne
  have hpassed : Move.passed (.sequence ys) (left c k) =
      if StartsWith ys (left c k) then ys.length else 0 := rfl
  rw [hnext]
  split
  · next hs =>
    rw [if_pos hs] at hpassed
    have hlength := mt List.length_eq_zero_iff.mp hne
    rw [← hpassed] at hlength ⊢
    exact ⟨agrees_of_met hlength rfl rfl rfl, iff_of_true ⟨_, rfl⟩ hs⟩
  · next hs =>
    rw [if_neg hs] at hpassed
    exact ⟨agrees_of_unmet hpassed rfl rfl (blames_shortfall ys c k),
      iff_of_false (by rintro ⟨_, h⟩; cases h) hs⟩

theorem checksMoves_before (c : C) (k : Nat) : (before c k).ChecksMoves where
  element := agrees_element c k
  members := agrees_members c k
  sequence := agrees_sequence c k
  nil := by
    have hexpect := expectSequence_before c ([] : List α) k
    have hempty : toList (part c k k) = [] := toList_part_add c k 0
    rw [if_pos (startsWith_nil _)] at hexpect
    refine ⟨startsWith_before c [] k, part c k k, _, hexpect, scan_before c k _, ?_, hempty, ?_⟩
    · rw [skip_before, Move.passed, if_pos (startsWith_nil _)]
      rfl
    · rw [Outcome.value_map, Move.passed, if_pos (startsWith_nil _)]
      exact hempty

end Cursor

/-- **An expectation is met where the move it checks passes something.**  Wherever requests lead on
a sequence of elements, whatever it is for two of them to be equal, and wherever they lead on a
text, an element, a sequence that is not empty and a run of members can be expected just if scanning
them passes something, with the same part and the same place behind it; a failure leaves the cursor
in place and names a cause that lies ahead.  The empty sequence can always be expected. -/
theorem everywhere_checksMoves :
    (∀ (α : Type) [BEq α] (s : Sequence α), Cursor.Everywhere s Cursor.ChecksMoves) ∧
    (∀ t : Text, Cursor.Everywhere t Cursor.ChecksMoves) :=
  ⟨fun _ _ s => Cursor.everywhere_of_before fun k _ => Cursor.checksMoves_before s k,
    fun t => Cursor.everywhere_of_before fun k _ => Cursor.checksMoves_before t k⟩

end ForwardCursor
