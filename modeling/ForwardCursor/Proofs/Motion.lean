import ForwardCursor.Proofs.Safety

/-!
# Proofs/Motion — moving forward is stepping as many times

Moving forward takes any three words: the index may lie inside an element or past the end, the limit
before the index or past the end, and the count may be too large to be added to the index.  A
sequence decides by one addition that refuses to wrap; a text steps over its characters and asks
about the limit when it is done.  They answer alike (`movesExactly_and_addsExactly`): the move leads
somewhere exactly if it starts at a valid index that has as many elements behind it, and then it
leads where as many steps lead, unless that is past the limit.

Counted in elements, two moves in a row go as far as one by the sum of both
(`forward?_bind_forward?_eq_some_iff`).  Hence they can be made as one wherever the sum is a word,
and cannot be made where it is none, for want of elements.
-/

namespace ForwardCursor

namespace Input

variable {C α : Type} [Input C α]

/-- **A move made in single steps** — from a valid index past `n` elements, up to a limit. -/
structure Motion (valid : Index → Prop) (c : C) (i n limit j : Index) : Prop where
  /-- It starts at a valid index… -/
  starts : valid i
  /-- …that has at least as many elements behind it… -/
  enough : ∃ rest, slice? c i (size c) = some rest ∧ n.toNat ≤ (toList rest).length
  /-- …leads where as many steps lead… -/
  reached : j = (next c)^[n.toNat] i
  /-- …and not past the limit. -/
  within : j ≤ limit

/-- **An input that moves exactly**, whatever the index, the count and the limit are. -/
structure MovesExactly (valid : Index → Prop) (c : C) : Prop where
  /-- It moves where single steps lead, and nowhere else. -/
  moves (i n limit j : Index) : forward? c i n limit = some j ↔ Motion valid c i n limit j
  /-- Moving by a sum is moving by one number and then by the other… -/
  adds (i m n limit : Index) : m.toNat + n.toNat < UInt64.size →
    forward? c i (m + n) limit = (forward? c i m limit).bind (forward? c · n limit)
  /-- …which is not possible for numbers whose sum is no word. -/
  refuses (i m n limit : Index) : UInt64.size ≤ m.toNat + n.toNat →
    (forward? c i m limit).bind (forward? c · n limit) = none
  /-- Stepping past one element is moving by one, or to the end where that is not possible. -/
  steps (i : Index) : next c i = forwardOrEnd c i 1

variable [LawfulInput C] {c : C} {i m n limit j : Index}

/-! ## Where moves lead, counted in elements -/

/-- **A move made in single steps** adds to the number of elements before it. -/
theorem motion_iff_exists_start :
    Motion (Boundary c) c i n limit j ↔ ∃ k, k + n.toNat ≤ (toList c).length ∧ i = start c k ∧
      j = start c (k + n.toNat) ∧ j ≤ limit := by
  constructor
  · rintro ⟨⟨k, hk, rfl⟩, ⟨rest, hrest, hn⟩, rfl, hlimit⟩
    have hpart := slice?_start_eq_part c hk
    rw [LawfulInput.start_length, hrest, Option.some.injEq] at hpart
    rw [hpart, toList_part_length hk, length_left] at hn
    rw [iterate_next_start] at hlimit ⊢
    exact ⟨k, by omega, rfl, rfl, hlimit⟩
  · rintro ⟨k, hk, rfl, rfl, hlimit⟩
    have hkl : k ≤ (toList c).length := Nat.le_of_add_right_le hk
    have hpart := slice?_start_eq_part c hkl
    rw [LawfulInput.start_length] at hpart
    refine ⟨boundary_start c k, ⟨_, hpart, ?_⟩, (iterate_next_start c k _).symm, hlimit⟩
    rw [toList_part_length hkl, length_left]
    omega

/-- **Two moves in a row** add to it one after the other. -/
theorem forward?_bind_forward?_eq_some_iff :
    (forward? c i m limit).bind (forward? c · n limit) = some j ↔
      ∃ k, k + (m.toNat + n.toNat) ≤ (toList c).length ∧ i = start c k ∧
        j = start c (k + (m.toNat + n.toNat)) ∧ j ≤ limit := by
  simp only [Option.bind_eq_some_iff, ← Nat.add_assoc]
  constructor
  · rintro ⟨p, hfirst, hsecond⟩
    obtain ⟨k, hk, rfl, rfl, -⟩ := LawfulInput.forward?_eq_some_iff.mp hfirst
    obtain ⟨l, hl, hkl, rfl, hlimit⟩ := LawfulInput.forward?_eq_some_iff.mp hsecond
    obtain rfl := (start_inj hk (Nat.le_of_add_right_le hl)).mp hkl
    exact ⟨k, hl, rfl, rfl, hlimit⟩
  · rintro ⟨k, hk, rfl, rfl, hlimit⟩
    -- the first move stays within the limit because the second does
    have hle : start c (k + m.toNat) ≤ limit :=
      UInt64.le_trans (start_le_start (Nat.le_add_right ..)) hlimit
    exact ⟨_, LawfulInput.forward?_eq_some_iff.mpr ⟨k, by omega, rfl, rfl, hle⟩,
      LawfulInput.forward?_eq_some_iff.mpr ⟨_, hk, rfl, rfl, hlimit⟩⟩

theorem forward?_add (h : m.toNat + n.toNat < UInt64.size) :
    forward? c i (m + n) limit = (forward? c i m limit).bind (forward? c · n limit) := by
  have hsum : (m + n).toNat = m.toNat + n.toNat := by
    rw [UInt64.toNat_add]
    exact Nat.mod_eq_of_lt h
  refine Option.ext fun j => ?_
  rw [LawfulInput.forward?_eq_some_iff, forward?_bind_forward?_eq_some_iff, hsum]

/-- **No input has so many elements** that moves could pass more than there are words. -/
theorem forward?_bind_forward?_eq_none (h : UInt64.size ≤ m.toNat + n.toNat) :
    (forward? c i m limit).bind (forward? c · n limit) = none := by
  refine Option.eq_none_iff_forall_ne_some.mpr ?_
  intro j hj
  obtain ⟨k, hk, -⟩ := forward?_bind_forward?_eq_some_iff.mp hj
  have hlength := length_lt_size c
  omega

theorem movesExactly_of_boundary {valid : Index → Prop} (hvalid : ∀ i, valid i ↔ Boundary c i)
    (hsteps : ∀ i, next c i = forwardOrEnd c i 1) : MovesExactly valid c where
  moves i n limit j := by
    obtain rfl : valid = Boundary c := funext fun i => propext (hvalid i)
    rw [motion_iff_exists_start, LawfulInput.forward?_eq_some_iff]
  adds _ _ _ _ := forward?_add
  refuses _ _ _ _ := forward?_bind_forward?_eq_none
  steps := hsteps

end Input

open Input

/-- **A character is passed by its width**, and that is moving by one: where no character starts
both lead to the end. -/
theorem Text.next_eq_forwardOrEnd (t : Text) (i : Index) : Input.next t i = forwardOrEnd t i 1 := by
  change t.next i = (t.forward? i 1 t.size).getD t.size
  have hone : t.stepOver? i (1 : Index).toNat =
      (t.get? i).map fun x => i + UInt64.ofNat x.utf8Size := Option.map_eq_bind.symm
  cases hx : t.get? i with
  | some x =>
    obtain ⟨k, hk⟩ := eq_start_of_get? hx
    have hle : i + UInt64.ofNat x.utf8Size ≤ t.size := by
      rw [UInt64.le_iff_toNat_le, toNat_add_utf8Size hx, toNat_size]
      exact toNat_add_utf8Size_le hx
    rw [hx, Option.map_some] at hone
    rw [next, hx, forward?_eq_some_iff.mpr ⟨hk ▸ t.isBoundary_start k, hone, hle⟩, Option.getD_some]
  | none =>
    rw [hx, Option.map_none] at hone
    rw [next, hx, forward?, hone, Option.filter_none, ite_self, Option.getD_none]

/-- **Moving forward is stepping as many times.**  In a sequence and in a text, for any index, count
and limit, a move leads where single steps past as many elements lead, or nowhere; moves add up; and
no sum of indices and counts or widths wraps. -/
theorem movesExactly_and_addsExactly :
    (∀ (α : Type) (s : Sequence α), MovesExactly (· ≤ s.size) s ∧ s.AddsExactly) ∧
    (∀ t : Text, MovesExactly (t.isBoundary · = true) t ∧ t.AddsExactly) := by
  constructor
  · intro α s
    exact ⟨movesExactly_of_boundary (fun _ => Sequence.le_size_iff_boundary) fun _ => rfl,
      s.addsExactly⟩
  · intro t
    exact ⟨movesExactly_of_boundary (fun _ => Text.isBoundary_iff_boundary) t.next_eq_forwardOrEnd,
      t.addsExactly⟩

end ForwardCursor
