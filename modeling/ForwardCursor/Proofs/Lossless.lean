import ForwardCursor.Proofs.Safety

/-!
# Proofs/Lossless — scanning loses nothing and gives nothing twice

What a run of scans and expectations gives back, put together, is what lies between the place where
the run started and the place where it came to: the same as what was passed since a mark taken at
the start, and together with what is left afterwards, what was left before
(`everywhere_losesNothing`).

One request gives back the elements it passes (`ask_took`), and none if it fails, because then it
passes none; along a run the parts abut, because each request starts where the one before stopped
(`askAll_took`).
-/

namespace ForwardCursor

variable {C α : Type}

/-- Whether a request passes elements and gives them back. -/
def Request.takes : Request α → Bool
  | .scan _ | .scanOne | .expect _ => true
  | _ => false

open Input

namespace Cursor

variable [Input C α] [BEq α]

/-- **A cursor from which scanning loses nothing** — whatever is scanned and expected, the elements
that are given back are those passed since a mark at the cursor, the part from the one position to
the other, and with what is left then, what was left before. -/
def LosesNothing (c : Cursor C) : Prop :=
  ∀ rs : List (Request α), (∀ r ∈ rs, r.takes = true) →
    ∃ os span rest rest₀, c.askAll rs = .ok os ∧
      (c.afterAll os).since c.mark = .ok span ∧
      (c.afterAll os).slice c.position (c.afterAll os).position = .ok span ∧
      (c.afterAll os).rest = .ok rest ∧ c.rest = .ok rest₀ ∧
      toList span = os.flatMap (·.value.taken) ∧ toList rest₀ = toList span ++ toList rest

variable [LawfulInput C]

/-- **A request that takes** gives back the elements it passes. -/
theorem ask_took (c : C) (k : Nat) {r : Request α} (hr : r.takes = true) :
    ∃ o n, (before c k).ask r = .ok o ∧ Took c k n o := by
  cases r with
  | scan m =>
    exact ⟨_, m.passed (left c k), ask_scan_before c k m, rfl, m.passed_le_length _,
      toList_part_add c k _⟩
  | scanOne =>
    refine ⟨_, min 1 (left c k).length, rfl, ?_, Nat.min_le_right .., ?_⟩
    · rw [before_add_min_length]
      exact advance_before c k
    · change (before c k).current?.toList = _
      rw [current?_before]
      cases left c k with
      | nil => rfl
      | cons x xs => rw [List.length_cons, Nat.min_eq_left (Nat.succ_le_succ (Nat.zero_le _))]; rfl
  | expect e => exact ask_expect_took c k e
  | _ => cases hr

/-- **A run of requests that take** gives back the elements it passes, in order. -/
theorem askAll_took (c : C) (k : Nat) {rs : List (Request α)} (hrs : ∀ r ∈ rs, r.takes = true) :
    ∃ os n, (before c k).askAll rs = .ok os ∧ (before c k).afterAll os = before c (k + n) ∧
      n ≤ (left c k).length ∧ os.flatMap (·.value.taken) = (left c k).take n := by
  induction rs generalizing k with
  | nil => exact ⟨[], 0, rfl, rfl, Nat.zero_le _, List.take_zero.symm⟩
  | cons r rs ih =>
    obtain ⟨hr, hrs⟩ := List.forall_mem_cons.mp hrs
    obtain ⟨o, n, ho, hcursor, hn, htaken⟩ := ask_took c k hr
    obtain ⟨os, l, hos, hafter, hl, hall⟩ := ih (k + n) hrs
    rw [← hcursor] at hos hafter
    rw [← drop_left] at hl hall
    refine ⟨o :: os, n + l, askAll_cons ho hos, ?_, ?_, ?_⟩
    · rw [afterAll, hafter, Nat.add_assoc]
    · rw [List.length_drop] at hl
      omega
    · rw [List.flatMap_cons, htaken, hall, List.take_add]

theorem losesNothing_before {c : C} {k : Nat} (hk : k ≤ (toList c).length) :
    (before c k).LosesNothing := by
  intro rs hrs
  obtain ⟨os, n, hos, hafter, hn, htaken⟩ := askAll_took c k hrs
  have hend : k + n ≤ (toList c).length := by
    rw [length_left] at hn
    omega
  have hsince := since_before c hend (before c k).mark
  rw [mark, position_before, countUpTo_start hk, Nat.min_eq_left (Nat.le_add_right k n)] at hsince
  refine ⟨os, part c k (k + n), part c (k + n) (toList c).length, part c k (toList c).length, hos,
    ?_, ?_, ?_, rest_before c hk, ?_, ?_⟩
  · rw [hafter]
    exact hsince
  · rw [hafter]
    exact slice_start c (Nat.le_add_right k n)
  · rw [hafter]
    exact rest_before c hend
  · rw [toList_part_add, htaken]
  · rw [toList_part_add, toList_part_length hk, toList_part_length hend, ← drop_left,
      List.take_append_drop]

end Cursor

/-- **Scanning loses nothing and gives nothing twice.**  Wherever requests lead on a sequence or a
text, what scans and expectations give back from there is the part they pass, element by element,
and what is left of the input follows it. -/
theorem everywhere_losesNothing :
    (∀ (α : Type) [BEq α] (s : Sequence α), Cursor.Everywhere s Cursor.LosesNothing) ∧
    (∀ t : Text, Cursor.Everywhere t Cursor.LosesNothing) :=
  ⟨fun _ _ _ => Cursor.everywhere_of_before fun _ hk => Cursor.losesNothing_before hk,
    fun _ => Cursor.everywhere_of_before fun _ hk => Cursor.losesNothing_before hk⟩

end ForwardCursor
