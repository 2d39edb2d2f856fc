import ForwardCursor.Proofs.Search
import Mathlib.Order.Bounds.Basic

/-!
# Proofs/Verdict — an expected sequence is met, differs, or runs out of input

Compared element by element with a sequence that is expected of it, a list either is long enough
and agrees, or differs, and then at some first place, or agrees as far as it goes and is too short.
Whatever equality is, exactly one of these `Verdict`s fits, and it is the one to be read off the
number of elements a comparison gets past (`fits_iff_eq_verdict`).  What expecting a sequence
answers, and where it leaves the cursor, is settled by the verdict on what is left
(`everywhere_classifies`).
-/

namespace ForwardCursor

/-! ## Verdicts on lists -/

section Lists

variable {α : Type} [BEq α] {xs ys : List α} {j : Nat}

/-- **The places where a list differs from what is expected** — there is an element on either side,
and the one found does not equal the one expected. -/
def differences (ys xs : List α) : Set Nat :=
  {j | ∃ x y, xs[j]? = some x ∧ ys[j]? = some y ∧ (x == y) = false}

/-- **A list agrees with what is expected**, as far as both go. -/
def Agree (ys xs : List α) : Prop :=
  ∀ (j : Nat) (x y : α), xs[j]? = some x → ys[j]? = some y → (x == y) = true

/-- **What there is to say of a list** where a sequence is expected. -/
inductive Verdict where
  /-- It has as many elements as the sequence, and agrees. -/
  | met
  /-- It differs, `j` places on for the first time. -/
  | differs (j : Nat)
  /-- It has fewer elements, and agrees. -/
  | short

/-- **When a verdict fits.** -/
def Verdict.Fits (ys xs : List α) : Verdict → Prop
  | met => ys.length ≤ xs.length ∧ Agree ys xs
  | differs j => IsLeast (differences ys xs) j
  | short => xs.length < ys.length ∧ Agree ys xs

theorem agree_iff : Agree ys xs ↔ ∀ j, j ∉ differences ys xs := by
  constructor
  · rintro h j ⟨x, y, hx, hy, hxy⟩
    exact Bool.false_ne_true (hxy.symm.trans (h j x y hx hy))
  · intro h j x y hx hy
    rw [← Bool.not_eq_false]
    exact fun hxy => h j ⟨x, y, hx, hy, hxy⟩

theorem lt_length_of_mem_differences (h : j ∈ differences ys xs) :
    j < ys.length ∧ j < xs.length := by
  obtain ⟨x, y, hx, hy, -⟩ := h
  exact ⟨(List.getElem?_eq_some_iff.mp hy).1, (List.getElem?_eq_some_iff.mp hx).1⟩

theorem zero_mem_differences_iff {x y : α} :
    0 ∈ differences (y :: ys) (x :: xs) ↔ (x == y) = false := by
  constructor
  · rintro ⟨x', y', hx, hy, hxy⟩
    rwa [← Option.some.inj hx, ← Option.some.inj hy] at hxy
  · exact fun hxy => ⟨x, y, rfl, rfl, hxy⟩

/-- **A comparison gets no further than a difference**… -/
theorem agreement_le_of_mem_differences (h : j ∈ differences ys xs) : agreement ys xs ≤ j := by
  induction ys generalizing xs j with
  | nil => exact absurd (lt_length_of_mem_differences h).1 (Nat.not_lt_zero j)
  | cons y ys ih =>
    rcases xs with _ | ⟨x, xs⟩
    · exact absurd (lt_length_of_mem_differences h).2 (Nat.not_lt_zero j)
    · cases hxy : x == y with
      | false =>
        rw [agreement_cons_of_ne hxy]
        exact Nat.zero_le j
      | true =>
        rw [agreement_cons_of_eq hxy]
        rcases j with _ | j
        · exact absurd (hxy.symm.trans (zero_mem_differences_iff.mp h)) (by decide)
        · exact Nat.succ_le_succ (ih h)

/-- …and what stops it before either end is one. -/
theorem agreement_mem_differences (hy : agreement ys xs < ys.length)
    (hx : agreement ys xs < xs.length) : agreement ys xs ∈ differences ys xs := by
  induction ys generalizing xs with
  | nil => exact absurd hy (Nat.not_lt_zero _)
  | cons y ys ih =>
    rcases xs with _ | ⟨x, xs⟩
    · exact absurd hx (Nat.not_lt_zero _)
    · cases hxy : x == y with
      | false =>
        rw [agreement_cons_of_ne hxy]
        exact zero_mem_differences_iff.mpr hxy
      | true =>
        rw [agreement_cons_of_eq hxy] at hx hy ⊢
        exact ih (Nat.lt_of_succ_lt_succ hy) (Nat.lt_of_succ_lt_succ hx)

theorem isLeast_differences_iff :
    IsLeast (differences ys xs) j ↔ agreement ys xs = j ∧ j < ys.length ∧ j < xs.length := by
  have hleast : agreement ys xs < ys.length → agreement ys xs < xs.length →
      IsLeast (differences ys xs) (agreement ys xs) := fun hy hx =>
    ⟨agreement_mem_differences hy hx, fun _ => agreement_le_of_mem_differences⟩
  constructor
  · intro h
    obtain ⟨hy, hx⟩ := lt_length_of_mem_differences h.1
    have hle := agreement_le_of_mem_differences h.1
    exact ⟨(hleast (Nat.lt_of_le_of_lt hle hy) (Nat.lt_of_le_of_lt hle hx)).unique h, hy, hx⟩
  · rintro ⟨rfl, hy, hx⟩
    exact hleast hy hx

/-- **A list agrees** if a comparison gets to the end of one side. -/
theorem agree_iff_agreement : Agree ys xs ↔ agreement ys xs = min ys.length xs.length := by
  have hy := agreement_le_left ys xs
  have hx := agreement_le_right ys xs
  rw [agree_iff]
  constructor
  · intro h
    by_contra hne
    exact h _ (agreement_mem_differences (by omega) (by omega))
  · intro h j hj
    have hle := agreement_le_of_mem_differences hj
    obtain ⟨hjy, hjx⟩ := lt_length_of_mem_differences hj
    omega

/-- **The verdict of a comparison**, from the number of elements it gets past. -/
def verdict (ys xs : List α) : Verdict :=
  if agreement ys xs = ys.length then .met
  else if agreement ys xs = xs.length then .short
  else .differs (agreement ys xs)

/-- **Only the verdict of the comparison fits.** -/
theorem fits_iff_eq_verdict {v : Verdict} : v.Fits ys xs ↔ v = verdict ys xs := by
  have hy := agreement_le_left ys xs
  have hx := agreement_le_right ys xs
  rw [verdict]
  cases v with
  | met =>
    rw [Verdict.Fits, agree_iff_agreement]
    split
    · exact iff_of_true (by omega) rfl
    · exact iff_of_false (by omega) (by split <;> nofun)
  | differs j =>
    rw [Verdict.Fits, isLeast_differences_iff]
    split
    · exact iff_of_false (by omega) nofun
    · split
      · exact iff_of_false (by omega) nofun
      · rw [Verdict.differs.injEq]
        omega
  | short =>
    rw [Verdict.Fits, agree_iff_agreement]
    split
    · exact iff_of_false (by omega) nofun
    · split
      · exact iff_of_true (by omega) rfl
      · exact iff_of_false (by omega) nofun

theorem existsUnique_fits (ys xs : List α) : ∃! v : Verdict, v.Fits ys xs :=
  ⟨verdict ys xs, fits_iff_eq_verdict.mpr rfl, fun _ => fits_iff_eq_verdict.mp⟩

end Lists

/-! ## On cursors -/

namespace Cursor

open Input

variable {C α : Type} [Input C α]

/-- **The index some elements ahead**, stepped to one by one. -/
def stepped (c : Cursor C) (n : Nat) : Index := (next c.input)^[n] c.position

variable [BEq α]

/-- **What expecting a sequence comes to**, by the verdict on what is left.  If it is met, the part
of the input that met it is given back, and the cursor goes behind it; otherwise the cursor stays,
and the answer is the index of the first difference, or the end. -/
def SettledBy (c : Cursor C) (ys : List α) (rest : C) : Verdict → Prop
  | .met => ∃ span, c.slice c.position (c.stepped ys.length) = .ok span ∧
      toList span = (toList rest).take ys.length ∧
      c.expectSequence ys = .ok ((c.place (c.stepped ys.length)).answer (.ok span))
  | .differs j => c.expectSequence ys = .ok ⟨.error (.mismatch (c.stepped j)), c, [],
      [.sequenceUnmet c.position (.mismatch (c.stepped j))]⟩
  | .short => c.expectSequence ys = .ok ⟨.error (.endOfInput c.size), c, [],
      [.sequenceUnmet c.position (.endOfInput c.size)]⟩

/-- **An expectation that is classified** by what is left. -/
structure Classifies (c : Cursor C) (ys : List α) (rest : C) : Prop where
  /-- This is left… -/
  rest_eq : c.rest = .ok rest
  /-- …and its elements are found one step after the other. -/
  found (j : Nat) : get? c.input (c.stepped j) = (toList rest)[j]?
  /-- One verdict fits it, and no other… -/
  existsUnique_fits : ∃! v : Verdict, v.Fits ys (toList rest)
  /-- …which settles what comes of the expectation. -/
  settledBy {v : Verdict} : v.Fits ys (toList rest) → c.SettledBy ys rest v
  /-- The empty sequence is always met. -/
  fits_nil : ys = [] → Verdict.met.Fits ys (toList rest)

variable [LawfulInput C] {c : C} {k : Nat}

omit [BEq α] [LawfulInput C] in
@[simp] theorem stepped_before (c : C) (k n : Nat) : (before c k).stepped n = start c (k + n) :=
  iterate_next_start c k n

theorem settledBy_verdict (hk : k ≤ (toList c).length) (ys : List α) :
    (before c k).SettledBy ys (part c k (toList c).length) (verdict ys (left c k)) := by
  rw [verdict]
  split
  · next h =>
    have hs : StartsWith ys (left c k) := h
    refine ⟨part c k (k + ys.length), ?_, ?_, ?_⟩
    · rw [stepped_before, position_before, slice_start c (Nat.le_add_right ..)]
    · rw [toList_part_add, toList_part_length hk]
    · rw [expectSequence_before, if_pos hs, stepped_before, place_before]
  · next h =>
    have hs : ¬ StartsWith ys (left c k) := h
    split
    · next hx =>
      have hend : start c (k + (left c k).length) = Input.size c :=
        start_of_length_le (by rw [length_left]; omega)
      rw [SettledBy, expectSequence_before, if_neg hs, shortfall, if_pos hx, hx, hend]
      rfl
    · next hx =>
      rw [SettledBy, expectSequence_before, if_neg hs, shortfall, if_neg hx, stepped_before]
      rfl

theorem classifies_before (hk : k ≤ (toList c).length) (ys : List α) :
    (before c k).Classifies ys (part c k (toList c).length) where
  rest_eq := rest_before c hk
  found j := by
    rw [input_before, stepped_before, get?_start, toList_part_length hk, left, List.getElem?_drop]
  existsUnique_fits := ForwardCursor.existsUnique_fits ys _
  settledBy h := by
    rw [fits_iff_eq_verdict, toList_part_length hk] at h
    exact h ▸ settledBy_verdict hk ys
  fits_nil h := by
    subst h
    exact fits_iff_eq_verdict.mpr (if_pos (agreement_nil_left _)).symm

end Cursor

/-- **Expecting a sequence classifies what is left.**  Wherever requests lead on a sequence of
elements, whatever it is for two of them to be equal, and wherever they lead on a text, exactly one
verdict fits what is left, and the answer, the cursor and what is reported are as it says. -/
theorem everywhere_classifies :
    (∀ (α : Type) [BEq α] (s : Sequence α) (ys : List α),
      Cursor.Everywhere s fun c => ∃ rest, c.Classifies ys rest) ∧
    (∀ (t : Text) (ys : List Char), Cursor.Everywhere t fun c => ∃ rest, c.Classifies ys rest) :=
  ⟨fun _ _ _ ys => Cursor.everywhere_of_before fun _ hk => ⟨_, Cursor.classifies_before hk ys⟩,
    fun _ ys => Cursor.everywhere_of_before fun _ hk => ⟨_, Cursor.classifies_before hk ys⟩⟩

end ForwardCursor
