import ForwardCursor.Input.Sequence
import ForwardCursor.Proofs.Boundary

/-!
# Proofs/Boundary/Sequence — a sequence is a lawful input

The `k`-th element of a sequence starts at index `k`, so the laws are those of arithmetic up to the
size.
-/

namespace ForwardCursor.Sequence

open Input

variable {α : Type} {s : Sequence α} {i n limit j : Index} {k : Nat}

/-- **The next index is one more**, up to the size. -/
theorem toNat_next (s : Sequence α) (i : Index) :
    (next s i).toNat = min (i.toNat + 1) s.items.size := by
  change ((s.forward? i 1 s.size).getD s.size).toNat = _
  cases hf : s.forward? i 1 s.size with
  | some j =>
    obtain ⟨hj, -, hle⟩ := forward?_eq_some_iff.mp hf
    rw [UInt64.toNat_one] at hj
    rw [Option.getD_some, hj, Nat.min_eq_left (hj ▸ hle)]
  | none =>
    rw [Option.getD_none, toNat_size, eq_comm, Nat.min_eq_right]
    by_contra hlt
    have hone : (i + 1).toNat = i.toNat + 1 := by
      have hsize : s.items.size < 2 ^ 64 := s.size_lt
      rw [UInt64.toNat_add, UInt64.toNat_one, Nat.mod_eq_of_lt (by omega)]
    have hsome : s.forward? i 1 s.size = some (i + 1) :=
      forward?_eq_some_iff.mpr ⟨hone, by rw [toNat_size]; omega, by omega⟩
    exact nomatch hf.symm.trans hsome

/-- **The `k`-th element starts at index `k`.** -/
theorem toNat_start (s : Sequence α) : ∀ k, (start s k).toNat = min k s.items.size
  | 0 => (Nat.zero_min _).symm
  | k + 1 => by
    rw [start, toNat_next, toNat_start s k]
    omega

theorem toNat_start_of_le (h : k ≤ s.items.size) : (start s k).toNat = k := by
  rw [toNat_start, Nat.min_eq_left h]

@[simp] theorem length_toList (s : Sequence α) : (toList s).length = s.items.size := rfl

/-- Every index up to the size is the start of the element it counts. -/
theorem eq_start (h : i.toNat ≤ s.items.size) : i = start s i.toNat := by
  rw [← UInt64.toNat_inj, toNat_start_of_le h]

/-- **Every index up to the size is a boundary.** -/
theorem boundary_of_le_size (h : i ≤ s.size) : Boundary s i := by
  rw [UInt64.le_iff_toNat_le, toNat_size] at h
  exact ⟨i.toNat, h, eq_start h⟩

theorem le_size_iff_boundary : i ≤ s.size ↔ Boundary s i := by
  refine ⟨boundary_of_le_size, ?_⟩
  rintro ⟨k, hk, rfl⟩
  rwa [UInt64.le_iff_toNat_le, toNat_start_of_le hk, toNat_size]

theorem eq_start_of_get? {x : α} (h : s.get? i = some x) : ∃ k, i = start s k := by
  obtain ⟨hi, -⟩ := get?_eq_some_iff.mp h
  exact ⟨i.toNat, eq_start (Nat.le_of_lt hi)⟩

theorem get?_start (s : Sequence α) (k : Nat) : s.get? (start s k) = s.items.toList[k]? := by
  rw [get?, toNat_start, Array.getElem?_toList]
  rcases Nat.le_total k s.items.size with h | h
  · rw [Nat.min_eq_left h]
  · rw [Nat.min_eq_right h, Array.getElem?_eq_none (Nat.le_refl _), Array.getElem?_eq_none h]

theorem forward?_eq_some_iff_start : s.forward? i n limit = some j ↔
    ∃ k, k + n.toNat ≤ s.items.size ∧ i = start s k ∧ j = start s (k + n.toNat) ∧ j ≤ limit := by
  rw [forward?_eq_some_iff]
  constructor
  · rintro ⟨hj, hlimit, hsize⟩
    refine ⟨i.toNat, by omega, eq_start (by omega), ?_, UInt64.le_iff_toNat_le.mpr hlimit⟩
    rw [← hj]
    exact eq_start hsize
  · rintro ⟨k, hk, rfl, rfl, hlimit⟩
    rw [toNat_start_of_le hk, toNat_start_of_le (by omega)]
    refine ⟨rfl, ?_, hk⟩
    rw [← toNat_start_of_le hk]
    exact UInt64.le_iff_toNat_le.mp hlimit

theorem toNat_floor (s : Sequence α) (i : Index) :
    (floor s i).toNat = min i.toNat s.items.size := by
  change (min i s.size).toNat = _
  rw [Index.toNat_min, toNat_size]

theorem slice?_start_start {l : Nat} (hkl : k ≤ l) (hl : l ≤ s.items.size) :
    ∃ d, s.slice? (start s k) (start s l) = some d ∧
      d.items.toList = (s.items.toList.drop k).take (l - k) := by
  have hlo := toNat_start_of_le (Nat.le_trans hkl hl)
  have hhi := toNat_start_of_le hl
  have hle : start s k ≤ start s l := by rwa [UInt64.le_iff_toNat_le, hlo, hhi]
  have hsize : start s l ≤ s.size := by rwa [UInt64.le_iff_toNat_le, hhi, toNat_size]
  refine ⟨_, if_pos ⟨hle, hsize⟩, ?_⟩
  change (s.items.extract (start s k).toNat (start s l).toNat).toList = _
  rw [hlo, hhi, Array.toList_extract, List.extract_eq_take_drop]

theorem start_of_slice? {d : Sequence α} {lo hi : Index} (h : s.slice? lo hi = some d) :
    ∃ k l, k ≤ l ∧ l ≤ s.items.size ∧ lo = start s k ∧ hi = start s l := by
  obtain ⟨hle, hsize, -⟩ := slice?_eq_some_iff.mp h
  rw [UInt64.le_iff_toNat_le] at hle hsize
  rw [toNat_size] at hsize
  exact ⟨lo.toNat, hi.toNat, hle, hsize, eq_start (Nat.le_trans hle hsize), eq_start hsize⟩

theorem start_le_floor_iff : start s k ≤ floor s i ↔ start s k ≤ i := by
  rw [UInt64.le_iff_toNat_le, UInt64.le_iff_toNat_le, toNat_floor, toNat_start]
  omega

/-- **A sequence is a lawful input.** -/
instance : LawfulInput (Sequence α) where
  get?_start := get?_start
  eq_start_of_get? := eq_start_of_get?
  start_length s := by
    rw [← UInt64.toNat_inj, toNat_start, length_toList, Nat.min_self]
    exact (toNat_size s).symm
  next_size s := by
    have hsize : (Input.size s).toNat = s.items.size := toNat_size s
    rw [← UInt64.toNat_inj, toNat_next, hsize]
    omega
  forward?_eq_some_iff := forward?_eq_some_iff_start
  floor_eq_start s i := by
    have h := toNat_floor s i
    exact ⟨_, eq_start (by omega)⟩
  start_le_floor_iff := start_le_floor_iff
  slice?_start_start := slice?_start_start
  start_of_slice? := start_of_slice?
  ext_toList h := ext (Array.toList_inj.mp h)

end ForwardCursor.Sequence
