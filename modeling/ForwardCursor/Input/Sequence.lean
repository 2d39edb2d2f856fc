import ForwardCursor.Input

/-!
# Input/Sequence — a sequence of elements, one index each

The boundaries of a sequence are exactly `0 … size`, so moving forward is one checked addition and
the last boundary at or before an index is the smaller of it and the size.

A `Sequence` stands for every collection that is indexed by its elements: slices, arrays of a fixed
length and growing vectors of elements of any type, and byte strings, whose elements are bytes.  All
of them are read in place and none is changed, so what keeps the elements makes no difference.
-/

namespace ForwardCursor

/-- **A sequence short enough for its indices to be words.** -/
structure Sequence (α : Type) where
  /-- The elements. -/
  items : Array α
  /-- The number of elements is a word. -/
  size_lt : items.size < UInt64.size

namespace Sequence

variable {α : Type}

@[ext] theorem ext {s d : Sequence α} (h : s.items = d.items) : s = d := by
  cases s
  cases d
  subst h
  rfl

/-- The sequence of the elements of an array, unless there are too many. -/
def ofArray? (items : Array α) : Option (Sequence α) :=
  if h : items.size < UInt64.size then some ⟨items, h⟩ else none

/-- The number of elements. -/
def size (s : Sequence α) : Index := UInt64.ofNat s.items.size

@[simp] theorem toNat_size (s : Sequence α) : s.size.toNat = s.items.size :=
  Index.toNat_ofNat_of_lt s.size_lt

/-- The element at an index. -/
def get? (s : Sequence α) (i : Index) : Option α := s.items[i.toNat]?

theorem get?_eq_some_iff {s : Sequence α} {i : Index} {x : α} :
    s.get? i = some x ↔ ∃ h : i.toNat < s.items.size, s.items[i.toNat] = x :=
  Array.getElem?_eq_some_iff

/-- **Moving forward** — the sum of index and count, if it passes neither the limit nor the end. -/
def forward? (s : Sequence α) (i n limit : Index) : Option Index :=
  (Index.add? i n).filter (· ≤ min limit s.size)

theorem forward?_eq_some_iff {s : Sequence α} {i n limit j : Index} :
    s.forward? i n limit = some j ↔
      j.toNat = i.toNat + n.toNat ∧ j.toNat ≤ limit.toNat ∧ j.toNat ≤ s.items.size := by
  rw [forward?, Option.filter_eq_some_iff, Index.add?_eq_some_iff, decide_eq_true_eq,
    ← toNat_size s, ← UInt64.le_iff_toNat_le, ← UInt64.le_iff_toNat_le]
  exact and_congr_right fun _ => Std.le_min_iff

/-- The elements from one index up to another. -/
def slice? (s : Sequence α) (lo hi : Index) : Option (Sequence α) :=
  if lo ≤ hi ∧ hi ≤ s.size then
    some ⟨s.items.extract lo.toNat hi.toNat, by
      have := s.size_lt
      rw [Array.size_extract]
      omega⟩
  else none

/-- **A part is there exactly between indices in order**, and holds the elements between them. -/
theorem slice?_eq_some_iff {s d : Sequence α} {lo hi : Index} :
    s.slice? lo hi = some d ↔
      lo ≤ hi ∧ hi ≤ s.size ∧ d.items = s.items.extract lo.toNat hi.toNat := by
  unfold slice?
  split
  · next h =>
    refine ⟨fun hd => ⟨h.1, h.2, congrArg items (Option.some.inj hd).symm⟩, ?_⟩
    rintro ⟨-, -, hd⟩
    exact congrArg some (ext hd.symm)
  · next h => exact ⟨fun hd => (nomatch hd), fun hd => absurd ⟨hd.1, hd.2.1⟩ h⟩

theorem lt_of_forward? {s : Sequence α} {i n limit j : Index} (h : s.forward? i n limit = some j)
    (hn : n ≠ 0) : i < j := by
  have h₁ := (forward?_eq_some_iff.mp h).1
  have h₂ : n.toNat ≠ 0 := fun h0 => hn (UInt64.toNat_inj.mp h0)
  rw [UInt64.lt_iff_toNat_lt]
  omega

theorem lt_getD_forward? {s : Sequence α} {i : Index} (h : i < s.size) :
    i < (s.forward? i 1 s.size).getD s.size := by
  cases hf : s.forward? i 1 s.size with
  | none => exact h
  | some j => exact lt_of_forward? hf (by decide)

/-- A sequence, each element at an index of its own. -/
instance : Input (Sequence α) α where
  size := size
  get? := get?
  forward? := forward?
  slice? := slice?
  toList s := s.items.toList
  lt_size_of_get?_eq_some h := by
    obtain ⟨hi, -⟩ := get?_eq_some_iff.mp h
    rwa [UInt64.lt_iff_toNat_lt, toNat_size]
  lt_next := lt_getD_forward?
  lt_of_forward?_eq_some := lt_of_forward?

end Sequence

end ForwardCursor
