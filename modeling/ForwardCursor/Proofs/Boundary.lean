import ForwardCursor.Input
import Mathlib.Data.List.Forall2
import Mathlib.Data.Nat.Init
import Mathlib.Logic.Function.Iterate
import Mathlib.Tactic.ByContra

/-!
# Proofs/Boundary — the places of an input, counted in elements

`start c k` is the index where the `k`-th element starts, found by stepping over `k` elements from
the first; from the last element on it stays at the end.  A *lawful* input does with its indices
what a list does with its positions: the element at `start c k` is the `k`-th of the list, moving
forward adds to `k`, and a part of the input is there exactly between two starts in order.

Everything proved of a cursor rests on these laws alone, so it holds of every kind of input.
-/

namespace ForwardCursor

/-- **Where the `k`-th element starts** — the end, if there are no more than `k`. -/
def Input.start {C α : Type} [Input C α] (c : C) : Nat → Index
  | 0 => 0
  | k + 1 => next c (start c k)

open Input in
/-- **An input that treats its indices as the list of its elements treats its positions.** -/
class LawfulInput (C : Type) {α : outParam Type} [Input C α] : Prop where
  /-- An element is found where it starts. -/
  get?_start (c : C) (k : Nat) : get? c (start c k) = (toList c)[k]?
  /-- An element is found nowhere else. -/
  eq_start_of_get? {c : C} {i : Index} {x : α} : get? c i = some x → ∃ k, i = start c k
  /-- Past the last element lies the end. -/
  start_length (c : C) : start c (toList c).length = size c
  /-- Nothing lies past the end. -/
  next_size (c : C) : next c (size c) = size c
  /-- Passing elements counts them, and needs as many. -/
  forward?_eq_some_iff {c : C} {i n limit j : Index} :
    forward? c i n limit = some j ↔ ∃ k, k + n.toNat ≤ (toList c).length ∧ i = start c k ∧
      j = start c (k + n.toNat) ∧ j ≤ limit
  /-- The last boundary at or before an index is one… -/
  floor_eq_start (c : C) (i : Index) : ∃ k, floor c i = start c k
  /-- …and the last. -/
  start_le_floor_iff {c : C} {k : Nat} {i : Index} : start c k ≤ floor c i ↔ start c k ≤ i
  /-- Between two starts in order there is a part, and it holds the elements between them… -/
  slice?_start_start {c : C} {k l : Nat} : k ≤ l → l ≤ (toList c).length →
    ∃ d, slice? c (start c k) (start c l) = some d ∧ toList d = ((toList c).drop k).take (l - k)
  /-- …and nowhere else. -/
  start_of_slice? {c d : C} {lo hi : Index} : slice? c lo hi = some d →
    ∃ k l, k ≤ l ∧ l ≤ (toList c).length ∧ lo = start c k ∧ hi = start c l
  /-- Inputs with the same elements are the same. -/
  ext_toList {c d : C} : toList c = toList d → c = d

namespace Input

variable {C α : Type} [Input C α]

/-- **A place an input can be cut at** — the start of an element, or the end. -/
def Boundary (c : C) (i : Index) : Prop := ∃ k ≤ (toList c).length, i = start c k

/-- **A walk** from one index to another, past the elements it finds on the way. -/
inductive Walk (c : C) : Index → List α → Index → Prop
  /-- Going nowhere. -/
  | nil {i : Index} : Walk c i [] i
  /-- An element to pass before going on. -/
  | cons {i j : Index} {x : α} {xs : List α} :
    get? c i = some x → Walk c (next c i) xs j → Walk c i (x :: xs) j

/-- **What is left** of an input behind its first `k` elements. -/
def left (c : C) (k : Nat) : List α := (toList c).drop k

theorem length_left (c : C) (k : Nat) : (left c k).length = (toList c).length - k :=
  List.length_drop

theorem drop_left (c : C) (k n : Nat) : (left c k).drop n = left c (k + n) := List.drop_drop

@[simp] theorem next_start (c : C) (k : Nat) : next c (start c k) = start c (k + 1) := rfl

theorem iterate_next_start (c : C) (k : Nat) : ∀ j, (next c)^[j] (start c k) = start c (k + j)
  | 0 => rfl
  | j + 1 => by
    rw [Function.iterate_succ_apply', iterate_next_start c k j, next_start, Nat.add_assoc]

variable [LawfulInput C]

open LawfulInput

@[simp] theorem get?_start (c : C) (k : Nat) : get? c (start c k) = (toList c)[k]? :=
  LawfulInput.get?_start c k

/-- What is found at a boundary is the first of what is left. -/
theorem get?_start_eq_head? (c : C) (k : Nat) : get? c (start c k) = (left c k).head? := by
  rw [get?_start, left, List.head?_drop]

/-! ## Starts in order -/

variable {c : C} {k l : Nat}

theorem start_lt_size (h : k < (toList c).length) : start c k < size c :=
  lt_size_of_get?_eq_some ((get?_start c k).trans (List.getElem?_eq_getElem h))

theorem start_lt_start_succ (h : k < (toList c).length) : start c k < start c (k + 1) :=
  lt_next (start_lt_size h)

/-- **There are no starts past the end.** -/
theorem start_of_length_le (h : (toList c).length ≤ k) : start c k = size c := by
  induction k, h using Nat.le_induction with
  | base => exact start_length c
  | succ k _ ih => rw [← next_start, ih, next_size]

theorem start_min_length (c : C) (k : Nat) : start c (min k (toList c).length) = start c k := by
  rcases Nat.le_total k (toList c).length with h | h
  · rw [Nat.min_eq_left h]
  · rw [Nat.min_eq_right h, start_length, start_of_length_le h]

theorem start_le_start_succ (c : C) (k : Nat) : start c k ≤ start c (k + 1) := by
  rcases Nat.lt_or_ge k (toList c).length with h | h
  · exact UInt64.le_of_lt (start_lt_start_succ h)
  · rw [start_of_length_le h, start_of_length_le (Nat.le_succ_of_le h)]
    exact UInt64.le_refl _

theorem start_le_start (h : k ≤ l) : start c k ≤ start c l := by
  induction l, h using Nat.le_induction with
  | base => exact UInt64.le_refl _
  | succ l _ ih => exact UInt64.le_trans ih (start_le_start_succ c l)

/-- **Each element starts behind the ones before it.** -/
theorem start_lt_start (hk : k < (toList c).length) (h : k < l) : start c k < start c l :=
  UInt64.lt_of_lt_of_le (start_lt_start_succ hk) (start_le_start h)

theorem start_le_size (c : C) (k : Nat) : start c k ≤ size c := by
  rw [← start_min_length, ← start_length]
  exact start_le_start (Nat.min_le_right ..)

theorem start_lt_start_iff (hk : k ≤ (toList c).length) (hl : l ≤ (toList c).length) :
    start c k < start c l ↔ k < l := by
  constructor
  · intro h
    by_contra hle
    exact absurd h (UInt64.not_lt.mpr (start_le_start (Nat.not_lt.mp hle)))
  · intro h
    exact start_lt_start (by omega) h

theorem start_le_start_iff (hk : k ≤ (toList c).length) (hl : l ≤ (toList c).length) :
    start c k ≤ start c l ↔ k ≤ l := by
  rw [← UInt64.not_lt, start_lt_start_iff hl hk, Nat.not_lt]

theorem start_inj (hk : k ≤ (toList c).length) (hl : l ≤ (toList c).length) :
    start c k = start c l ↔ k = l := by
  constructor
  · intro h
    exact Nat.le_antisymm ((start_le_start_iff hk hl).mp (h ▸ UInt64.le_refl _))
      ((start_le_start_iff hl hk).mp (h ▸ UInt64.le_refl _))
  · rintro rfl
    rfl

theorem size_le_start_iff (hk : k ≤ (toList c).length) :
    size c ≤ start c k ↔ (toList c).length ≤ k := by
  rw [← start_length, start_le_start_iff (Nat.le_refl _) hk]

/-- **Each element takes an index**, so there are as many indices before a start as elements. -/
theorem le_toNat_start (hk : k ≤ (toList c).length) : k ≤ (start c k).toNat := by
  induction k with
  | zero => exact Nat.zero_le _
  | succ k ih =>
    have hlt := UInt64.lt_iff_toNat_lt.mp (start_lt_start_succ hk)
    have hle := ih (Nat.le_of_succ_le hk)
    omega

/-- **An input has fewer elements than there are words.** -/
theorem length_lt_size (c : C) : (toList c).length < UInt64.size :=
  Nat.lt_of_le_of_lt (le_toNat_start (Nat.le_refl _)) (start c _).toNat_lt

theorem length_left_lt_size (c : C) (k : Nat) : (left c k).length < UInt64.size := by
  rw [length_left]
  exact Nat.lt_of_le_of_lt (Nat.sub_le ..) (length_lt_size c)

/-- **Walking over the next `n` elements** adds `n` to the count. -/
theorem walk_start (c : C) {n : Nat} (h : k + n ≤ (toList c).length) :
    Walk c (start c k) ((left c k).take n) (start c (k + n)) := by
  induction n generalizing k with
  | zero => exact .nil
  | succ n ih =>
    have hget := List.getElem?_eq_getElem (show k < (toList c).length by omega)
    rw [left, List.drop_eq_getElem_cons (by omega), List.take_succ_cons]
    have hwalk := ih (k := k + 1) (by omega)
    rw [Nat.add_assoc, Nat.add_comm 1 n] at hwalk
    exact .cons ((get?_start c k).trans hget) hwalk

/-! ## Boundaries -/

theorem boundary_start (c : C) (k : Nat) : Boundary c (start c k) :=
  ⟨min k (toList c).length, Nat.min_le_right .., (start_min_length c k).symm⟩

theorem Boundary.le_size {i : Index} (h : Boundary c i) : i ≤ size c := by
  obtain ⟨k, -, rfl⟩ := h
  exact start_le_size c k

theorem boundary_floor (c : C) (i : Index) : Boundary c (floor c i) := by
  obtain ⟨k, hk⟩ := LawfulInput.floor_eq_start c i
  exact hk ▸ boundary_start c k

/-- **No boundary lies between** an index and the last one at or before it. -/
theorem Boundary.le_floor_iff {i j : Index} (h : Boundary c j) : j ≤ floor c i ↔ j ≤ i := by
  obtain ⟨k, -, rfl⟩ := h
  exact start_le_floor_iff

theorem floor_le (c : C) (i : Index) : floor c i ≤ i :=
  (boundary_floor c i).le_floor_iff.mp (UInt64.le_refl _)

theorem Boundary.floor_eq {i : Index} (h : Boundary c i) : floor c i = i :=
  UInt64.le_antisymm (floor_le c i) (h.le_floor_iff.mpr (UInt64.le_refl _))

theorem floor_start (c : C) (k : Nat) : floor c (start c k) = start c k :=
  (boundary_start c k).floor_eq

theorem floor_eq_start_iff {i : Index} (hk : k ≤ (toList c).length) :
    floor c i = start c k ↔ ∀ l ≤ (toList c).length, l ≤ k ↔ start c l ≤ i := by
  obtain ⟨g, hg, hfloor⟩ := boundary_floor c i
  have hgalois : ∀ l ≤ (toList c).length, l ≤ g ↔ start c l ≤ i := fun l hl => by
    rw [← start_le_start_iff hl hg, ← hfloor, start_le_floor_iff]
  rw [hfloor, start_inj hg hk]
  constructor
  · rintro rfl
    exact hgalois
  · intro h
    exact Nat.le_antisymm ((h g hg).mpr ((hgalois g hg).mp (Nat.le_refl g)))
      ((hgalois k hk).mpr ((h k hk).mp (Nat.le_refl k)))

/-- **An index at or behind a start and before the next** has the start as its last boundary. -/
theorem floor_eq_start_of_le {i : Index} (hk : k ≤ (toList c).length) (hle : start c k ≤ i)
    (hlt : k < (toList c).length → i < start c (k + 1)) : floor c i = start c k := by
  refine (floor_eq_start_iff hk).mpr ?_
  intro l hl
  constructor
  · intro h
    exact UInt64.le_trans (start_le_start h) hle
  · intro h
    by_contra hkl
    have hnext : start c (k + 1) ≤ start c l := start_le_start (Nat.lt_of_not_le hkl)
    exact absurd (UInt64.le_trans hnext h) (UInt64.not_le.mpr (hlt (by omega)))

/-- **How many elements end at or before an index.** -/
def countUpTo (c : C) (i : Index) : Nat :=
  (List.range (toList c).length).countP fun k => start c (k + 1) ≤ i

omit [LawfulInput C] in
theorem countUpTo_le_length (c : C) (i : Index) : countUpTo c i ≤ (toList c).length := by
  have h := List.countP_le_length (p := fun k => start c (k + 1) ≤ i)
    (l := List.range (toList c).length)
  rwa [List.length_range] at h

/-- **The last boundary lies behind the elements that end before the index.** -/
theorem floor_eq_start_countUpTo (c : C) (i : Index) :
    floor c i = start c (countUpTo c i) := by
  obtain ⟨g, hg, hfloor⟩ := boundary_floor c i
  have hgalois := (floor_eq_start_iff hg).mp hfloor
  have hcount : countUpTo c i = (List.range (toList c).length).countP (· < g) := by
    refine List.countP_congr ?_
    intro k hk
    rw [decide_eq_true_eq, decide_eq_true_eq, ← hgalois (k + 1) (List.mem_range.mp hk)]
    exact Nat.succ_le_iff
  have hrange : ∀ n, (List.range n).countP (· < g) = min n g := fun n => by
    induction n with
    | zero => simp
    | succ n ih =>
      rw [List.range_succ, List.countP_append, ih, List.countP_singleton]
      split <;> simp_all <;> omega
  rw [hfloor, hcount, hrange, Nat.min_eq_right hg]

/-- **As many elements end at or before an index** as start at or before it, the first left out. -/
theorem le_countUpTo_iff {i : Index} (hk : k ≤ (toList c).length) :
    k ≤ countUpTo c i ↔ start c k ≤ i :=
  (floor_eq_start_iff (countUpTo_le_length c i)).mp (floor_eq_start_countUpTo c i) k hk

/-- **As many elements end before a start** as it counts. -/
theorem countUpTo_start (hk : k ≤ (toList c).length) : countUpTo c (start c k) = k := by
  rw [← start_inj (countUpTo_le_length c _) hk, ← floor_eq_start_countUpTo, floor_start]

/-- **The last boundary before an index and a start** is the earlier of the two. -/
theorem floor_min_start {i : Index} (hk : k ≤ (toList c).length) :
    floor c (min i (start c k)) = start c (min (countUpTo c i) k) := by
  rw [floor_eq_start_iff (by omega)]
  intro l hl
  rw [Nat.le_min, le_countUpTo_iff hl, ← start_le_start_iff hl hk, UInt64.le_iff_toNat_le,
    UInt64.le_iff_toNat_le, UInt64.le_iff_toNat_le, Index.toNat_min, Nat.le_min]

/-! ## Moving and cutting between starts -/

/-- **Moving forward or to the end adds to the count.** -/
theorem forwardOrEnd_start (c : C) (k : Nat) (n : Index) :
    forwardOrEnd c (start c k) n = start c (k + n.toNat) := by
  rw [forwardOrEnd]
  cases hf : forward? c (start c k) n (size c) with
  | some j =>
    obtain ⟨l, hl, hkl, rfl, -⟩ := forward?_eq_some_iff.mp hf
    rw [Option.getD_some, ← start_min_length c (k + n.toNat), ← start_min_length c (l + n.toNat)]
    congr 1
    rw [← start_min_length c k, start_inj (Nat.min_le_right ..) (by omega)] at hkl
    omega
  | none =>
    rw [Option.getD_none, start_of_length_le]
    by_contra hlt
    have hsome := forward?_eq_some_iff.mpr
      ⟨k, Nat.le_of_not_le hlt, rfl, rfl, start_le_size c (k + n.toNat)⟩
    exact nomatch hf.symm.trans hsome

/-- **The element some elements ahead**, if there is one. -/
theorem forward?_start_bind_get? (c : C) (k : Nat) (n : Index) :
    (forward? c (start c k) n (size c)).bind (get? c) = (toList c)[k + n.toNat]? := by
  have hforward := forwardOrEnd_start c k n
  rw [forwardOrEnd] at hforward
  cases hf : forward? c (start c k) n (size c) with
  | some j =>
    rw [hf, Option.getD_some] at hforward
    rw [Option.bind_some, hforward, get?_start]
  | none =>
    rw [hf, Option.getD_none, eq_comm, ← start_length, ← start_min_length,
      start_inj (Nat.min_le_right ..) (Nat.le_refl _)] at hforward
    rw [Option.bind_none, List.getElem?_eq_none (by omega)]

/-- **Between two starts in order there is a part**, and it holds the elements between them. -/
theorem slice?_start (c : C) (h : k ≤ l) :
    ∃ d, slice? c (start c k) (start c l) = some d ∧ toList d = (left c k).take (l - k) := by
  have hmin : min k (toList c).length ≤ min l (toList c).length := by omega
  obtain ⟨d, hd, hlist⟩ := slice?_start_start hmin (Nat.min_le_right ..)
  rw [start_min_length, start_min_length] at hd
  refine ⟨d, hd, hlist.trans ?_⟩
  rcases Nat.le_total k (toList c).length with hk | hk
  · rw [Nat.min_eq_left hk, left, List.take_eq_take_iff, List.length_drop]
    omega
  · rw [Nat.min_eq_right hk, left, List.drop_length, List.drop_of_length_le hk, List.take_nil,
      List.take_nil]

end Input

end ForwardCursor
