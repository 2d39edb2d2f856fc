import ForwardCursor.Proofs.Boundary.Sequence
import ForwardCursor.Proofs.Boundary.Text
import ForwardCursor.Proofs.Passage
import Mathlib.Data.List.Intervals

/-!
# Proofs/Coherence — the operations of an input tell one story

An input can be stepped through, looked into at an index, cut, and listed.  The indices that
stepping reaches from the start are where all of these agree: there, and nowhere else, elements are
found, those of the list in order; a part is there exactly between two of them in order, and it
holds the elements in between.  Sequences and texts are such inputs, whatever their elements are,
and so scanning one element after the other gives the list, and then nothing, for as long as one
goes on (`coherent_and_scansThrough`).
-/

namespace ForwardCursor

namespace Input

variable {C α : Type} [Input C α]

/-- **The indices from one up to another** where elements start. -/
def startsBetween (c : C) (lo hi : Index) : List Index :=
  ((List.range (toList c).length).map (start c)).filter fun i => lo ≤ i ∧ i < hi

/-- **An input whose operations agree** on the indices `start c 0`, `start c 1`, … that stepping
reaches. -/
structure Coherent (c : C) : Prop where
  /-- Before the end a step leads further on… -/
  ascends (k : Nat) : start c k < size c → start c k < start c (k + 1)
  /-- …and from the end nowhere. -/
  stays (k : Nat) : start c k = size c → start c (k + 1) = size c
  /-- As many steps as there are elements lead to the end. -/
  arrives : start c (toList c).length = size c
  /-- On the way the elements are found that are listed, in order. -/
  found (k : Nat) : get? c (start c k) = (toList c)[k]?
  /-- An element is found at the indices before the end, and at no other. -/
  isSome_get?_iff (i : Index) : (get? c i).isSome ↔ i < size c ∧ ∃ k, i = start c k
  /-- A part is there between two indices in order, and between no others… -/
  isSome_slice?_iff (lo hi : Index) :
    (slice? c lo hi).isSome ↔ lo ≤ hi ∧ (∃ k, lo = start c k) ∧ ∃ l, hi = start c l
  /-- …and holds the elements that start in between. -/
  holds {lo hi : Index} {d : C} : slice? c lo hi = some d →
    (toList d).map some = (startsBetween c lo hi).map (get? c)
  /-- There are no elements exactly if none are listed. -/
  isEmpty_iff : isEmpty c = true ↔ toList c = []

/-- **Scanning one element after the other** gives the elements listed, and then none. -/
def ScansThrough [BEq α] (c : C) : Prop :=
  ∀ n, ∃ os, (Cursor.ofInput c).askAll (List.replicate n .scanOne) = .ok os ∧
    os.map (·.value) = (List.range n).map fun k => .element (toList c)[k]?

variable [LawfulInput C] {c : C} {k l : Nat} {lo hi : Index}

/-! ## Where elements and parts are -/

theorem isSome_get?_iff_exists_start (i : Index) :
    (get? c i).isSome ↔ i < size c ∧ ∃ k, i = start c k := by
  rw [Option.isSome_iff_exists]
  constructor
  · rintro ⟨x, hx⟩
    exact ⟨lt_size_of_get?_eq_some hx, LawfulInput.eq_start_of_get? hx⟩
  · rintro ⟨hlt, k, rfl⟩
    have hk : k < (toList c).length := by
      by_contra hle
      rw [start_of_length_le (Nat.not_lt.mp hle)] at hlt
      exact UInt64.lt_irrefl _ hlt
    exact ⟨_, (get?_start c k).trans (List.getElem?_eq_getElem hk)⟩

theorem isSome_slice?_iff_exists_start (lo hi : Index) :
    (slice? c lo hi).isSome ↔ lo ≤ hi ∧ (∃ k, lo = start c k) ∧ ∃ l, hi = start c l := by
  rw [Option.isSome_iff_exists]
  constructor
  · rintro ⟨d, hd⟩
    obtain ⟨k, l, hkl, -, rfl, rfl⟩ := LawfulInput.start_of_slice? hd
    exact ⟨start_le_start hkl, ⟨k, rfl⟩, l, rfl⟩
  · rintro ⟨hle, ⟨k, rfl⟩, l, rfl⟩
    rw [← start_min_length c k, ← start_min_length c l] at hle ⊢
    have hkl := (start_le_start_iff (Nat.min_le_right ..) (Nat.min_le_right ..)).mp hle
    obtain ⟨d, hd, -⟩ := slice?_start c hkl
    exact ⟨d, hd⟩

/-! ## What a part holds -/

/-- **Between two starts** lie those of the elements counted in between. -/
theorem startsBetween_start (hkl : k ≤ l) (hl : l ≤ (toList c).length) :
    startsBetween c (start c k) (start c l) = (List.Ico k l).map (start c) := by
  have hcounted : (List.range (toList c).length).filter (fun j => k ≤ j ∧ j < l) =
      List.Ico k l := by
    simp only [Bool.decide_and]
    rw [← List.filter_filter, ← List.Ico.zero_bot, List.Ico.filter_lt, List.Ico.filter_le,
      Nat.zero_max, Nat.min_eq_right hl]
  rw [startsBetween, List.filter_map, ← hcounted]
  congr 1
  refine List.filter_congr ?_
  intro j hj
  have hj := List.mem_range.mp hj
  rw [Function.comp_apply, decide_eq_decide, start_le_start_iff (by omega) (by omega),
    start_lt_start_iff (by omega) hl]

theorem map_get?_startsBetween (hkl : k ≤ l) (hl : l ≤ (toList c).length) :
    (startsBetween c (start c k) (start c l)).map (get? c) =
      ((left c k).take (l - k)).map some := by
  rw [startsBetween_start hkl hl, List.map_map]
  refine List.ext_getElem ?_ ?_
  · rw [List.length_map, List.length_map, List.Ico.length, List.length_take, length_left]
    omega
  · intro j hj hj'
    rw [List.length_map, List.Ico.length] at hj
    have hlt : k + j < (toList c).length := by omega
    simp only [List.Ico]
    rw [List.getElem_map, List.getElem_range', Nat.one_mul, Function.comp_apply, get?_start,
      List.getElem?_eq_getElem hlt, List.getElem_map, List.getElem_take]
    simp only [left, List.getElem_drop]

theorem map_some_toList_of_slice? {d : C} (h : slice? c lo hi = some d) :
    (toList d).map some = (startsBetween c lo hi).map (get? c) := by
  obtain ⟨k, l, hkl, hl, rfl, rfl⟩ := LawfulInput.start_of_slice? h
  obtain ⟨e, he, hlist⟩ := slice?_start c hkl
  obtain rfl : d = e := Option.some.inj (h.symm.trans he)
  rw [hlist, map_get?_startsBetween hkl hl]

/-! ## All together -/

theorem isEmpty_iff_toList_eq_nil : isEmpty c = true ↔ toList c = [] := by
  have hzero : (0 : Index) = start c 0 := rfl
  rw [isEmpty, beq_iff_eq, ← LawfulInput.start_length, hzero,
    start_inj (Nat.le_refl _) (Nat.zero_le _), List.length_eq_zero_iff]

theorem coherent (c : C) : Coherent c where
  ascends k h := lt_next h
  stays k h := by rw [← next_start, h, LawfulInput.next_size]
  arrives := LawfulInput.start_length c
  found := get?_start c
  isSome_get?_iff := isSome_get?_iff_exists_start
  isSome_slice?_iff := isSome_slice?_iff_exists_start
  holds := map_some_toList_of_slice?
  isEmpty_iff := isEmpty_iff_toList_eq_nil

/-- **Scanning one after the other** from the `k`-th element on gives the elements from there. -/
theorem askAll_scanOne_before [BEq α] (c : C) (n k : Nat) :
    ∃ os, (Cursor.before c k).askAll (List.replicate n .scanOne) = .ok os ∧
      os.map (·.value) = (List.range n).map fun j => .element (toList c)[k + j]? := by
  induction n generalizing k with
  | zero => exact ⟨[], rfl, rfl⟩
  | succ n ih =>
    obtain ⟨os, hos, hvalues⟩ := ih (k + 1)
    rw [← Cursor.advance_before] at hos
    refine ⟨_, Cursor.askAll_cons rfl hos, ?_⟩
    have hhead : (Cursor.before c k).scanOne.value = (toList c)[k]? := get?_start c k
    rw [List.map_cons, hvalues, List.range_succ_eq_map, List.map_cons, List.map_map,
      Outcome.value_map, hhead]
    simp only [Function.comp_def, Nat.add_right_comm k 1]
    rfl

theorem scansThrough [BEq α] (c : C) : ScansThrough c := by
  intro n
  obtain ⟨os, hos, hvalues⟩ := askAll_scanOne_before c n 0
  simp only [Nat.zero_add] at hvalues
  exact ⟨os, hos, hvalues⟩

end Input

open Input

/-- **The operations of a sequence and of a text agree**, and scanning element by element lists
them. -/
theorem coherent_and_scansThrough :
    (∀ (α : Type) [BEq α] (s : Sequence α), Coherent s ∧ ScansThrough s) ∧
    (∀ t : Text, Coherent t ∧ ScansThrough t) :=
  ⟨fun _ _ s => ⟨coherent s, scansThrough s⟩, fun t => ⟨coherent t, scansThrough t⟩⟩

end ForwardCursor
