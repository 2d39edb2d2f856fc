import ForwardCursor.Proofs.Safety
import Mathlib.Order.Bounds.Defs

/-!
# Proofs/Search — a search stops at the first place where it could

`StandsAt c ys i` says element by element that a sequence is found from an index on, by the steps a
cursor takes and the comparison it makes, which need not be reflexive.  Of the valid indices ahead
of a cursor where a sequence stands, the search for it stops at the least; where it stands nowhere
ahead, at the end.  Candidates that overlap or run off the end do not lead it past a place.
-/

namespace ForwardCursor

open Input

variable {C α : Type} [Input C α] [BEq α]

/-! ## Where a sequence stands -/

/-- **A sequence stands at an index** — for each of its elements, the element as many places on is
there, and equals it. -/
def Input.StandsAt (c : C) (ys : List α) (i : Index) : Prop :=
  ∀ (j : Nat) (y : α), ys[j]? = some y → ∃ x, get? c ((next c)^[j] i) = some x ∧ (x == y) = true

/-- **The valid indices** at or behind an index where a sequence stands. -/
def Input.placesFrom (c : C) (ys : List α) (i : Index) : Set Index :=
  {j | i ≤ j ∧ Boundary c j ∧ StandsAt c ys j}

/-- **A search that stops where it should**, and the part it passes. -/
structure Cursor.FindsFirst (c : Cursor C) (ys : List α) : Prop where
  /-- The empty sequence is not looked for. -/
  stays : ys = [] → (c.skip (.upToSequence ys)).cursor = c
  /-- Any other is found at the first place ahead where it stands… -/
  found : ys ≠ [] → (placesFrom c.input ys c.position).Nonempty →
    IsLeast (placesFrom c.input ys c.position) (c.skip (.upToSequence ys)).cursor.position
  /-- …and where there is no such place, the search goes to the end. -/
  missed : ys ≠ [] → placesFrom c.input ys c.position = ∅ →
    (c.skip (.upToSequence ys)).cursor.position = c.size
  /-- Scanning answers with the elements passed on the way. -/
  span : ∃ o, c.scan (.upToSequence ys) = .ok o ∧
    o.cursor = (c.skip (.upToSequence ys)).cursor ∧
    Walk c.input c.position (toList o.value) o.cursor.position

/-! ## On lists -/

section Occurrence

omit [Input C α]

variable {xs ys : List α}

/-- **A list starts with what is looked for** if each element of the latter has an equal one in its
place. -/
theorem startsWith_iff_getElem? :
    StartsWith ys xs ↔
      ∀ (j : Nat) (y : α), ys[j]? = some y → ∃ x, xs[j]? = some x ∧ (x == y) = true := by
  induction ys generalizing xs with
  | nil => exact iff_of_true (startsWith_nil xs) nofun
  | cons y ys ih =>
    rcases xs with _ | ⟨x, xs⟩
    · refine iff_of_false (not_startsWith_cons_nil y ys) ?_
      intro h
      obtain ⟨x, hx, -⟩ := h 0 y rfl
      exact nomatch hx
    · rw [startsWith_cons_cons, ih]
      constructor
      · rintro ⟨hxy, htail⟩ j z hz
        rcases j with _ | j
        · exact ⟨x, rfl, Option.some.inj hz ▸ hxy⟩
        · exact htail j z hz
      · intro h
        obtain ⟨x', hx', hxy⟩ := h 0 y rfl
        exact ⟨Option.some.inj hx' ▸ hxy, fun j z hz => h (j + 1) z hz⟩

end Occurrence

/-! ## On inputs -/

namespace Input

variable [LawfulInput C] {c : C} {ys : List α} {k : Nat}

/-- **A sequence stands at a start** if what is left there starts with it. -/
theorem standsAt_start_iff : StandsAt c ys (start c k) ↔ StartsWith ys (left c k) := by
  rw [StandsAt, startsWith_iff_getElem?]
  simp only [iterate_next_start, get?_start, left, List.getElem?_drop]

/-- **The places ahead of a start**, counted in elements. -/
theorem mem_placesFrom_start_iff {i : Index} (hk : k ≤ (toList c).length) :
    i ∈ placesFrom c ys (start c k) ↔
      ∃ j ≤ (left c k).length, i = start c (k + j) ∧ StartsWith ys ((left c k).drop j) := by
  constructor
  · rintro ⟨hle, ⟨l, hl, rfl⟩, hstands⟩
    have hkl := (start_le_start_iff hk hl).mp hle
    refine ⟨l - k, by rw [length_left]; omega, by rw [Nat.add_sub_of_le hkl], ?_⟩
    rw [drop_left, Nat.add_sub_of_le hkl]
    exact standsAt_start_iff.mp hstands
  · rintro ⟨j, -, rfl, hstarts⟩
    rw [drop_left] at hstarts
    exact ⟨start_le_start (Nat.le_add_right k j), boundary_start c _,
      standsAt_start_iff.mpr hstarts⟩

end Input

namespace Cursor

variable [LawfulInput C] {c : C} {ys : List α} {k : Nat}

theorem position_skip_upToSequence_before (c : C) (ys : List α) (k : Nat) :
    ((before c k).skip (.upToSequence ys)).cursor.position =
      start c (k + firstOccurrence ys (left c k)) :=
  congrArg (fun o => o.cursor.position) (skip_before c k (.upToSequence ys))

/-- **Where a sequence stands ahead**, the search stops at the first such place. -/
theorem isLeast_skip_upToSequence (hk : k ≤ (toList c).length) (hne : ys ≠ [])
    (h : (placesFrom c ys (start c k)).Nonempty) :
    IsLeast (placesFrom c ys (start c k))
      ((before c k).skip (.upToSequence ys)).cursor.position := by
  rw [position_skip_upToSequence_before]
  constructor
  · obtain ⟨i, hi⟩ := h
    obtain ⟨j, -, -, hstarts⟩ := (mem_placesFrom_start_iff hk).mp hi
    obtain ⟨hle, hlt⟩ := firstOccurrence_le_of_startsWith hne hstarts
    exact (mem_placesFrom_start_iff hk).mpr ⟨_, firstOccurrence_le_length ys _, rfl,
      startsWith_drop_firstOccurrence (Nat.lt_of_le_of_lt hle hlt)⟩
  · intro i hi
    obtain ⟨j, -, rfl, hstarts⟩ := (mem_placesFrom_start_iff hk).mp hi
    exact start_le_start
      (Nat.add_le_add_left (firstOccurrence_le_of_startsWith hne hstarts).1 k)

/-- **Where a sequence stands nowhere ahead**, the search stops at the end. -/
theorem skip_upToSequence_eq_size (hk : k ≤ (toList c).length)
    (h : placesFrom c ys (start c k) = ∅) :
    ((before c k).skip (.upToSequence ys)).cursor.position = (before c k).size := by
  rw [position_skip_upToSequence_before]
  refine start_of_length_le ?_
  by_contra hlt
  have hbefore : firstOccurrence ys (left c k) < (left c k).length := by
    rw [length_left]
    omega
  have hmem := (mem_placesFrom_start_iff hk).mpr
    ⟨_, Nat.le_of_lt hbefore, rfl, startsWith_drop_firstOccurrence hbefore⟩
  rw [h] at hmem
  exact hmem

theorem findsFirst_before (hk : k ≤ (toList c).length) (ys : List α) :
    (before c k).FindsFirst ys where
  stays h := by
    rw [h, skip_before, Move.passed, firstOccurrence_nil_left]
    rfl
  found hne h := isLeast_skip_upToSequence hk hne h
  missed _ h := skip_upToSequence_eq_size hk h
  span := walk_scan hk _

end Cursor

/-- **A search stops at the first occurrence.**  Wherever requests lead on a sequence of elements,
whatever it is for two of them to be equal, and wherever they lead on a text, looking for a sequence
goes to the first valid index ahead where it stands, or to the end if there is none, and scanning up
to it answers with the elements in between. -/
theorem everywhere_findsFirst :
    (∀ (α : Type) [BEq α] (s : Sequence α) (ys : List α),
      Cursor.Everywhere s fun c => c.FindsFirst ys) ∧
    (∀ (t : Text) (ys : List Char), Cursor.Everywhere t fun c => c.FindsFirst ys) :=
  ⟨fun _ _ _ ys => Cursor.everywhere_of_before fun _ hk => Cursor.findsFirst_before hk ys,
    fun _ ys => Cursor.everywhere_of_before fun _ hk => Cursor.findsFirst_before hk ys⟩

end ForwardCursor
