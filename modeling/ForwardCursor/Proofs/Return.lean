import ForwardCursor.Proofs.Safety
import Mathlib.Order.Bounds.Defs

/-!
# Proofs/Return — a mark leads back to where it was taken

A mark is an index, and going back to it is going to the last valid index at or before it.  A mark
taken on the same input stands at a valid index already, because requests lead nowhere else; so
going back finds the very cursor that took it, reports nothing, and whatever is asked from then on
is answered as that cursor would have answered.

A mark from elsewhere may stand inside an element or past the end.  It is good for going back all
the same, and for the part passed since, if the part starts at the last valid index that is neither
behind the mark nor behind the cursor.  `everywhere_goesBack` says both of every place requests lead
to.
-/

namespace ForwardCursor

open Input

namespace Cursor

variable {C α : Type} [Input C α] [BEq α]

/-- **Going back from one cursor to another** — after going back to a mark of the other nothing was
reported, and every run of requests comes to what it comes to from the other. -/
def GoesBackTo (c d : Cursor C) : Prop :=
  ∀ rs : List (Request α), ∃ os, d.askAll rs = .ok os ∧
    c.askAll (.returnTo d.mark :: rs) = .ok (⟨.done, d, [], []⟩ :: os)

/-- **A mark that is good for a cursor**, wherever it was taken. -/
structure TakesMark (valid : Index → Prop) (c : Cursor C) (m : Mark) : Prop where
  /-- Going back leads to the greatest valid index at or before the mark, and is reported if that is
  another one. -/
  returnTo : ∃ g, IsGreatest {i | valid i ∧ i ≤ m.position} g ∧
    c.ask (.returnTo m) =
      .ok ⟨.done, c.place g, [], if g = m.position then [] else [.clamped m.position g]⟩
  /-- The part passed since is there, from the greatest valid index at or before the mark and the
  position; there is nothing in it if the mark is not before the position. -/
  since : ∃ g span, IsGreatest {i | valid i ∧ i ≤ min m.position c.position} g ∧
    c.slice g c.position = .ok span ∧ c.ask (.since m) = .ok (c.answer (.span span)) ∧
    (c.position ≤ m.position → toList span = [])

end Cursor

/-! ## The greatest valid index -/

namespace Input

variable {C α : Type} [Input C α] [LawfulInput C]

/-- **The last boundary at or before an index** is the greatest. -/
theorem isGreatest_floor (c : C) (i : Index) :
    IsGreatest {j | Boundary c j ∧ j ≤ i} (floor c i) := by
  constructor
  · exact ⟨boundary_floor c i, floor_le c i⟩
  · rintro j ⟨hj, hle⟩
    exact hj.le_floor_iff.mpr hle

end Input

/-! ## Marks from the same input, and from elsewhere -/

namespace Cursor

variable {C α : Type} [Input C α] [BEq α] [LawfulInput C]

/-- **Going back to a start** leads there, without a report. -/
theorem ask_returnTo_before (c : C) (k l : Nat) :
    (before c l).ask (.returnTo (before c k).mark) = .ok ⟨.done, before c k, [], []⟩ := by
  have hfloor : floor c (start c k) = start c k := floor_start c k
  rw [ask, returnTo, moveTo, mark, input_before, position_before, hfloor, if_pos rfl]
  rfl

theorem goesBackTo_before {c : C} {k : Nat} (hk : k ≤ (toList c).length) (l : Nat) :
    (before c l).GoesBackTo (before c k) := by
  intro rs
  obtain ⟨os, hos, -⟩ := askAll_before c hk rs
  exact ⟨os, hos, askAll_cons (ask_returnTo_before c k l) hos⟩

omit [BEq α] in
/-- **Nothing was passed** since a mark that is not before the position. -/
theorem toList_part_eq_nil {c : C} {k : Nat} (hk : k ≤ (toList c).length) {m : Mark}
    (h : start c k ≤ m.position) : toList (part c (min (countUpTo c m.position) k) k) = [] := by
  rw [Nat.min_eq_right ((le_countUpTo_iff hk).mpr h), toList_part c (Nat.le_refl k), Nat.sub_self,
    List.take_zero]

theorem takesMark_before {c : C} {k : Nat} (hk : k ≤ (toList c).length)
    {valid : Index → Prop} (hvalid : ∀ i, valid i ↔ Boundary c i) (m : Mark) :
    (before c k).TakesMark valid m := by
  obtain rfl : valid = Boundary c := funext fun i => propext (hvalid i)
  constructor
  · exact ⟨floor c m.position, isGreatest_floor c _, rfl⟩
  · exact ⟨floor c (min m.position (start c k)), _, isGreatest_floor c _, since_before c hk m,
      ask_since_before c hk m, toList_part_eq_nil hk⟩

end Cursor

/-- **A mark leads back to where it was taken.**  Wherever requests lead on a sequence or a text, a
cursor there goes back to any place where requests can lead, as if it had not gone further; and a
mark from elsewhere, whatever index it is, leads to the greatest valid index it allows, and tells
the part that was passed since. -/
theorem everywhere_goesBack :
    (∀ (α : Type) [BEq α] (s : Sequence α), Cursor.Everywhere s fun c =>
      Cursor.Everywhere s c.GoesBackTo ∧ ∀ m, c.TakesMark (· ≤ s.size) m) ∧
    (∀ t : Text, Cursor.Everywhere t fun c =>
      Cursor.Everywhere t c.GoesBackTo ∧ ∀ m, c.TakesMark (t.isBoundary · = true) m) := by
  constructor
  · intro α _ s
    refine Cursor.everywhere_of_before fun l hl => ⟨?_, ?_⟩
    · exact Cursor.everywhere_of_before fun k hk => Cursor.goesBackTo_before hk l
    · exact Cursor.takesMark_before hl fun i => Sequence.le_size_iff_boundary
  · intro t
    refine Cursor.everywhere_of_before fun l hl => ⟨?_, ?_⟩
    · exact Cursor.everywhere_of_before fun k hk => Cursor.goesBackTo_before hk l
    · exact Cursor.takesMark_before hl fun i => Text.isBoundary_iff_boundary

end ForwardCursor
