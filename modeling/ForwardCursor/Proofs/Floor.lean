import ForwardCursor.Proofs.Boundary.Sequence
import ForwardCursor.Proofs.Boundary.Text
import ForwardCursor.Cursor

/-!
# Proofs/Floor — the last boundary at or before an index

A cursor can be sent to any index, and goes to the greatest valid one that is not greater.  That a
valid index is no greater than the one given exactly if it is no greater than the one asked for
(`Boundary.le_floor_iff`) makes `floor` keep the valid indices and no others, change nothing a
second time, and respect the order.  And since a cursor reports where it went instead, it does so
for any index but a valid one (`floorsExactly_and_reportsClamps`).

In a text the boundary is found on the way down, one index at a time, from the index or the end.
The way need not be barred at 0, which is a boundary; and it is short, because no character is wider
than four bytes, so that one is met after three steps at the latest (`toNat_min_size_lt`).
-/

namespace ForwardCursor

open Input

/-! ## Going to an index -/

namespace Input

variable {C α : Type} [Input C α]

/-- **An input that rounds down exactly**, whatever the index is. -/
structure FloorsExactly (valid : Index → Prop) (c : C) : Prop where
  /-- It gives a valid index… -/
  gives (i : Index) : valid (floor c i)
  /-- …and none lies between that and the one asked for. -/
  greatest (i j : Index) : valid j → (j ≤ floor c i ↔ j ≤ i)
  /-- It keeps the valid indices and no others… -/
  keeps (i : Index) : floor c i = i ↔ valid i
  /-- …changes nothing a second time… -/
  settles (i : Index) : floor c (floor c i) = floor c i
  /-- …and respects the order. -/
  ascends (i j : Index) : i ≤ j → floor c i ≤ floor c j

end Input

namespace Cursor

variable {C α : Type} [Input C α]

/-- **A cursor that reports where it was sent** exactly if that is no valid index. -/
structure ReportsClamps (valid : Index → Prop) (c : Cursor C) : Prop where
  /-- To a valid index it goes in silence… -/
  silent (i : Index) : valid i → c.moveTo i = ⟨(), c.place i, [], []⟩
  /-- …and instead of another to the last one before it, which it reports. -/
  clamped (i : Index) : ¬ valid i →
    c.moveTo i = ⟨(), c.place (floor c.input i), [], [.clamped i (floor c.input i)]⟩

end Cursor

section Lawful

variable {C α : Type} [Input C α] [LawfulInput C] {valid : Index → Prop} {c : C}

theorem Input.floor_eq_self_iff {i : Index} : floor c i = i ↔ Boundary c i :=
  ⟨fun h => h ▸ boundary_floor c i, Boundary.floor_eq⟩

theorem Input.floor_le_floor {i j : Index} (h : i ≤ j) : floor c i ≤ floor c j :=
  (boundary_floor c i).le_floor_iff.mpr (UInt64.le_trans (floor_le c i) h)

theorem Input.floorsExactly_of_boundary (hvalid : ∀ i, valid i ↔ Boundary c i) :
    FloorsExactly valid c where
  gives i := (hvalid _).mpr (boundary_floor c i)
  greatest _ j hj := ((hvalid j).mp hj).le_floor_iff
  keeps i := by rw [floor_eq_self_iff, hvalid]
  settles i := (boundary_floor c i).floor_eq
  ascends _ _ := floor_le_floor

theorem Cursor.reportsClamps_of_boundary (hvalid : ∀ i, valid i ↔ Boundary c i) (p : Index) :
    ReportsClamps valid (⟨c, p⟩ : Cursor C) where
  silent i hi := by
    have hfloor : floor c i = i := ((hvalid i).mp hi).floor_eq
    rw [moveTo, hfloor, if_pos rfl]
  clamped i hi := by
    have hfloor : floor c i ≠ i := mt (fun h => (hvalid i).mpr (floor_eq_self_iff.mp h)) hi
    rw [moveTo, if_neg hfloor]

end Lawful

/-! ## Looking for a boundary downwards -/

namespace Text

variable {t : Text} {i j g : Index} {m n : Nat}

/-- **The way down from an index to a boundary**, and how many steps it takes. -/
inductive Descends (t : Text) : Index → Nat → Index → Prop
  /-- A boundary is where it ends. -/
  | stop {i : Index} : t.isBoundary i = true → Descends t i 0 i
  /-- From any other index, which is not 0, it goes on one below. -/
  | step {i j : Index} {n : Nat} : t.isBoundary i = false → 0 < i → Descends t (i - 1) n j →
    Descends t i (n + 1) j

/-- **There is one way down.** -/
theorem Descends.unique (h : t.Descends i m g) (h' : t.Descends i n j) : m = n ∧ g = j := by
  induction h generalizing n with
  | stop hi =>
    cases h' with
    | stop _ => exact ⟨rfl, rfl⟩
    | step hi' _ _ => exact nomatch hi.symm.trans hi'
  | step hi _ _ ih =>
    cases h' with
    | stop hi' => exact nomatch hi.symm.trans hi'
    | step _ _ hrest =>
      obtain ⟨rfl, rfl⟩ := ih hrest
      exact ⟨rfl, rfl⟩

/-- **The way down to a boundary** takes a step for each index passed, if none of them is one. -/
theorem descends_of_forall (hg : t.isBoundary g = true) :
    ∀ (n : Nat) {i : Index}, i.toNat = g.toNat + n →
      (∀ j, g < j → j ≤ i → t.isBoundary j = false) → t.Descends i n g
  | 0, i, hi, _ => by
    obtain rfl : i = g := UInt64.toNat_inj.mp hi
    exact .stop hg
  | n + 1, i, hi, hbetween => by
    have hlt : g < i := UInt64.lt_iff_toNat_lt.mpr (by omega)
    have hone : 1 ≤ i := UInt64.le_iff_toNat_le.mpr (by rw [UInt64.toNat_one]; omega)
    have hpred : (i - 1).toNat = i.toNat - 1 := UInt64.toNat_sub_of_le i 1 hone
    have hle : i - 1 ≤ i := UInt64.le_iff_toNat_le.mpr (by omega)
    refine .step (hbetween i hlt (UInt64.le_refl i)) (UInt64.lt_iff_toNat_lt.mpr ?_)
      (descends_of_forall hg n (by omega) fun j hgj hj => hbetween j hgj (UInt64.le_trans hj hle))
    rw [UInt64.toNat_zero]
    omega

/-- **No character is wider than four bytes**, so the last boundary is less than four indices off.
-/
theorem toNat_min_size_lt (t : Text) (i : Index) :
    (min i t.size).toNat < (t.floor i).toNat + 4 := by
  obtain ⟨k, hk, hfloor⟩ := boundary_floor t i
  change t.floor i = start t k at hfloor
  rw [Index.toNat_min, hfloor]
  rcases Nat.lt_or_ge k (toList t).length with hlt | hge
  · have hx := List.getElem?_eq_getElem hlt
    have hwidth := Char.utf8Size_le_four (toList t)[k]
    -- the next boundary lies behind the index, or it would be the last
    have hnext : i < start t (k + 1) := by
      rw [← UInt64.not_le, ← start_le_floor_iff, hfloor, UInt64.not_le]
      exact start_lt_start_succ hlt
    rw [UInt64.lt_iff_toNat_lt, toNat_start, width_succ hx, ← toNat_start] at hnext
    omega
  · have hend : start t k = t.size := start_of_length_le hge
    rw [hend]
    omega

/-- **The way down comes to the last boundary** in three steps at the most. -/
theorem exists_descends_floor (t : Text) (i : Index) :
    ∃ n ≤ 3, t.Descends (min i t.size) n (t.floor i) := by
  have hclose := t.toNat_min_size_lt i
  have hle : (t.floor i).toNat ≤ (min i t.size).toNat := by
    rw [Index.toNat_min]
    exact Nat.le_min.mpr ⟨UInt64.le_iff_toNat_le.mp (floor_le t i),
      UInt64.le_iff_toNat_le.mp (boundary_floor t i).le_size⟩
  refine ⟨(min i t.size).toNat - (t.floor i).toNat, by omega,
    descends_of_forall (t.isBoundary_floor i) _ (by omega) ?_⟩
  intro j hgj hj
  have hji : j ≤ i := by
    rw [UInt64.le_iff_toNat_le, Index.toNat_min] at hj
    exact UInt64.le_iff_toNat_le.mpr (by omega)
  -- a boundary up there would be the last
  refine Bool.eq_false_iff.mpr fun hboundary => UInt64.not_le.mpr hgj ?_
  exact (boundary_of_isBoundary hboundary).le_floor_iff.mpr hji

/-- From the last byte of a character of four, three steps are needed. -/
example : (⟨"a😀", by decide⟩ : Text).floor 4 = 1 := by decide

end Text

/-- **The last boundary at or before an index is the greatest.**  In a sequence and in a text any
index is rounded down to the greatest valid one, and a cursor sent to it, from wherever it is,
reports so exactly if the index is not valid.  A text comes down to it in three steps at the most,
and on no other way. -/
theorem floorsExactly_and_reportsClamps :
    (∀ (α : Type) (s : Sequence α), FloorsExactly (· ≤ s.size) s ∧
      ∀ p, Cursor.ReportsClamps (· ≤ s.size) (⟨s, p⟩ : Cursor (Sequence α))) ∧
    (∀ t : Text, FloorsExactly (t.isBoundary · = true) t ∧
      (∀ p, Cursor.ReportsClamps (t.isBoundary · = true) (⟨t, p⟩ : Cursor Text)) ∧
      ∀ i, ∃ n ≤ 3, ∀ m j, t.Descends (min i t.size) m j ↔ m = n ∧ j = t.floor i) := by
  constructor
  · intro α s
    have hvalid : ∀ i, i ≤ s.size ↔ Boundary s i := fun _ => Sequence.le_size_iff_boundary
    exact ⟨floorsExactly_of_boundary hvalid, Cursor.reportsClamps_of_boundary hvalid⟩
  · intro t
    have hvalid : ∀ i, t.isBoundary i = true ↔ Boundary t i := fun _ => Text.isBoundary_iff_boundary
    refine ⟨floorsExactly_of_boundary hvalid, Cursor.reportsClamps_of_boundary hvalid, ?_⟩
    intro i
    obtain ⟨n, hn, hdown⟩ := t.exists_descends_floor i
    refine ⟨n, hn, fun m j => ⟨fun h => h.unique hdown, ?_⟩⟩
    rintro ⟨rfl, rfl⟩
    exact hdown

end ForwardCursor
