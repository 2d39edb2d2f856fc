import ForwardCursor.Index

/-!
# Input — what a cursor walks over

An input is a finite sequence of elements laid out over the indices `0 … size`.  Each element
occupies one or more consecutive indices and is found at the first of them; `size` is one past the
last.  An index where an element starts, and `size` itself, is a *boundary*; every other index falls
inside an element or past the end, and nothing is found there.

The three laws say that walking makes progress: an element lies below the end, and both ways of
stepping over one move forward.
-/

namespace ForwardCursor

/-- **A sequence of elements addressed by index.** -/
class Input (C : Type) (α : outParam Type) where
  /-- One past the last element. -/
  size : C → Index
  /-- The element that starts at an index. -/
  get? : C → Index → Option α
  /-- `forward? c i n limit` — the boundary `n` elements after the boundary `i`, unless it lies past
  `limit` or past the end. -/
  forward? : C → Index → Index → Index → Option Index
  /-- The index after the element at an index; the end where there is none. -/
  next : C → Index → Index := fun c i => (forward? c i 1 (size c)).getD (size c)
  /-- The last boundary at or before an index. -/
  floor : C → Index → Index := fun c i => min i (size c)
  /-- `slice? c lo hi` — the part of the input between two boundaries in order. -/
  slice? : C → Index → Index → Option C
  /-- The elements, in order. -/
  toList : C → List α
  /-- An element lies below the end. -/
  lt_size_of_get?_eq_some {c : C} {i : Index} {x : α} : get? c i = some x → i < size c
  /-- The next index is further on. -/
  lt_next {c : C} {i : Index} : i < size c → i < next c i
  /-- Passing some elements moves forward. -/
  lt_of_forward?_eq_some {c : C} {i n limit j : Index} :
    forward? c i n limit = some j → n ≠ 0 → i < j

namespace Input

variable {C α : Type} [Input C α]

/-- Whether there are no elements. -/
def isEmpty (c : C) : Bool := size c == 0

/-- `forwardOrEnd c i n` — the boundary `n` elements after `i`, or the end if fewer remain. -/
def forwardOrEnd (c : C) (i n : Index) : Index := (forward? c i n (size c)).getD (size c)

theorem lt_forwardOrEnd {c : C} {i n : Index} (h : i < size c) (hn : n ≠ 0) :
    i < forwardOrEnd c i n := by
  unfold forwardOrEnd
  cases hf : forward? c i n (size c) with
  | none => exact h
  | some j => exact lt_of_forward?_eq_some hf hn

/-- Stepping over an element leaves less to walk. -/
theorem size_sub_next_lt {c : C} {i : Index} (h : i < size c) :
    (size c).toNat - (next c i).toNat < (size c).toNat - i.toNat := by
  have h₁ := UInt64.lt_iff_toNat_lt.mp h
  have h₂ := UInt64.lt_iff_toNat_lt.mp (lt_next h)
  omega

end Input

end ForwardCursor
