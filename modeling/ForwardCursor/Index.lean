/-!
# Index — positions and counts as 64-bit words

An input is addressed by words: an index says where an element starts, a count how many elements
to pass.  The only arithmetic an operation does on them is addition, and `add?` is the addition
that refuses to wrap: `add?_eq_some_iff` reads it in `Nat`.
-/

namespace ForwardCursor

/-- **A position in an input, or a number of elements** — a 64-bit word. -/
abbrev Index := UInt64

namespace Index

/-- The number a word built from a small enough one is. -/
theorem toNat_ofNat_of_lt {n : Nat} (h : n < UInt64.size) : (UInt64.ofNat n).toNat = n :=
  UInt64.toNat_ofNat_of_lt' h

theorem toNat_min (i j : Index) : (min i j).toNat = min i.toNat j.toNat := by
  change (if i ≤ j then i else j).toNat = _
  split
  · next h => rw [Nat.min_eq_left (UInt64.le_iff_toNat_le.mp h)]
  · next h =>
    rw [UInt64.le_iff_toNat_le] at h
    rw [Nat.min_eq_right (Nat.le_of_not_le h)]

/-- **Addition that refuses to wrap** — a sum that does not fit in a word is no index. -/
def add? (i n : Index) : Option Index :=
  if i ≤ i + n then some (i + n) else none

theorem add?_eq_some_iff {i n j : Index} : add? i n = some j ↔ j.toNat = i.toNat + n.toNat := by
  have hi := i.toNat_lt
  have hn := n.toNat_lt
  have hj := j.toNat_lt
  simp only [add?, UInt64.le_iff_toNat_le, UInt64.toNat_add]
  split
  · rw [Option.some.injEq, ← UInt64.toNat_inj, UInt64.toNat_add]
    omega
  · simp only [reduceCtorEq, false_iff]
    omega

theorem add?_eq_none_iff {i n : Index} : add? i n = none ↔ UInt64.size ≤ i.toNat + n.toNat := by
  have hi := i.toNat_lt
  have hn := n.toNat_lt
  simp only [add?, UInt64.le_iff_toNat_le, UInt64.toNat_add, UInt64.size]
  split
  · simp only [reduceCtorEq, false_iff]
    omega
  · simp only [true_iff]
    omega

end Index

end ForwardCursor
