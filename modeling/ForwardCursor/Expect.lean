import ForwardCursor.Move

/-!
# Expect — moves that have to succeed

An expectation is a move that answers why it failed instead of going nowhere in silence.  An element
and a sequence are passed when they are next, and a class when at least one member is.  A failure
leaves the cursor where it was.

The empty sequence is always there: it is the one thing that can be expected and not be skipped.
-/

namespace ForwardCursor

/-- **What has to come next.** -/
inductive Expectation (α : Type) where
  /-- One element. -/
  | element (y : α)
  /-- A sequence. -/
  | sequence (ys : List α)
  /-- One or more members of a class in a row. -/
  | members (accepts : α → Bool)

namespace Cursor

variable {C α : Type} [Input C α] [BEq α]

/-- Passing an element that has to be next, and answering with the one found. -/
def expectElement (c : Cursor C) (y : α) : Outcome C α (Except Unmet α) :=
  match c.current? with
  | none => ⟨.error (.endOfInput c.position), c, [], [.elementAtEnd c.position]⟩
  | some x =>
    if x == y then c.advance.answer (.ok x)
    else ⟨.error (.mismatch c.position), c, [], [.elementDiffers c.position]⟩

/-- Passing a sequence that has to be next, and answering with the part it matched. -/
def expectSequence (c : Cursor C) (ys : List α) :
    Except BadSlice (Outcome C α (Except Unmet C)) :=
  match Input.matchFrom c.input ys c.position with
  | .ok i => ((c.place i).spanFrom c.position).map fun span => (c.place i).answer (.ok span)
  | .error cause => .ok ⟨.error cause, c, [], [.sequenceUnmet c.position cause]⟩

/-- Passing the members of a class in a row, of which there has to be one, and answering with
them. -/
def expectMembers (c : Cursor C) (accepts : α → Bool) :
    Except BadSlice (Outcome C α (Except Unmet C)) :=
  match c.current? with
  | none => .ok (c.answer (.error (.endOfInput c.position)))
  | some x =>
    if accepts x then (c.scan (.members accepts)).map (·.map .ok)
    else .ok ⟨.error (.mismatch c.position), c, [], [.notMember c.position]⟩

/-- **An expected element gets the cursor on.** -/
theorem expectElement_eq_ok {c : Cursor C} {y x : α} (h : (c.expectElement y).value = .ok x) :
    c.current? = some x ∧ (c.expectElement y).cursor = c.advance := by
  unfold expectElement at h ⊢
  split
  · next hx => simp [hx] at h
  · next z hz =>
    simp only [hz] at h
    split at h
    · next he =>
      obtain rfl : z = x := Except.ok.inj h
      exact ⟨hz, by rw [if_pos he]; rfl⟩
    · cases h

theorem le_position_expectSequence {c : Cursor C} {ys : List α}
    {o : Outcome C α (Except Unmet C)} (h : c.expectSequence ys = .ok o) :
    o.cursor.input = c.input ∧ c.position ≤ o.cursor.position := by
  unfold expectSequence at h
  split at h
  · next i hi =>
    cases hs : (c.place i).spanFrom c.position with
    | error e => simp [hs, Except.map] at h
    | ok span =>
      simp only [hs, Except.map, Except.ok.injEq] at h
      subst h
      exact ⟨rfl, Input.le_of_matchFrom hi⟩
  · cases h
    exact ⟨rfl, UInt64.le_refl _⟩

end Cursor

end ForwardCursor
