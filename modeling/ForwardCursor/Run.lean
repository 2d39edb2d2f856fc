import ForwardCursor.Input
import ForwardCursor.Predicate

/-!
# Run — the elements a predicate accepts in a row

`runFrom` puts a predicate to the elements from an index on, until it says no or the input ends.
What comes of it is the elements that were asked about, in order, and the index where the run stops:
the one of the refused element, or the first where no element is found.
-/

namespace ForwardCursor

/-- **What a run comes to.** -/
structure Run (α : Type) where
  /-- The elements the predicate was put to, in order. -/
  asked : List α
  /-- Where the run stops. -/
  stop : Index

namespace Run

/-- The run that goes on after an element was accepted. -/
def after {α : Type} (x : α) (r : Run α) : Run α := ⟨x :: r.asked, r.stop⟩

@[simp] theorem asked_after {α : Type} (x : α) (r : Run α) : (r.after x).asked = x :: r.asked := rfl

@[simp] theorem stop_after {α : Type} (x : α) (r : Run α) : (r.after x).stop = r.stop := rfl

end Run

namespace Input

variable {C α : Type} [Input C α]

/-- **The run of a predicate** from an index on, going on from what it remembers. -/
def runFrom (c : C) (p : Predicate α) (s : p.State) (i : Index) : Run α :=
  match _h : get? c i with
  | none => ⟨[], i⟩
  | some x =>
    if (p.test s x).1 then (runFrom c p (p.test s x).2 (next c i)).after x else ⟨[x], i⟩
termination_by (size c).toNat - i.toNat
decreasing_by exact size_sub_next_lt (lt_size_of_get?_eq_some _h)

/-- The run of a predicate that was not asked before. -/
def run (c : C) (p : Predicate α) (i : Index) : Run α := runFrom c p p.start i

variable {c : C} {p : Predicate α} {s : p.State} {i : Index} {x : α}

theorem runFrom_of_none (h : get? c i = none) : runFrom c p s i = ⟨[], i⟩ := by
  rw [runFrom]
  split
  · rfl
  · next hx => simp [h] at hx

theorem runFrom_of_yes (h : get? c i = some x) (hp : (p.test s x).1 = true) :
    runFrom c p s i = (runFrom c p (p.test s x).2 (next c i)).after x := by
  rw [runFrom]
  split
  · next hx => simp [h] at hx
  · next y hy =>
    obtain rfl : x = y := Option.some.inj (h.symm.trans hy)
    rw [if_pos hp]

theorem runFrom_of_no (h : get? c i = some x) (hp : (p.test s x).1 = false) :
    runFrom c p s i = ⟨[x], i⟩ := by
  rw [runFrom]
  split
  · next hx => simp [h] at hx
  · next y hy =>
    obtain rfl : x = y := Option.some.inj (h.symm.trans hy)
    rw [if_neg (by simp [hp])]

/-- **A run never stops before it starts.** -/
theorem le_stop_runFrom (c : C) (p : Predicate α) (s : p.State) (i : Index) :
    i ≤ (runFrom c p s i).stop := by
  fun_induction runFrom c p s i with
  | case1 => exact UInt64.le_refl _
  | case2 s i x h _ ih =>
    exact UInt64.le_of_lt (UInt64.lt_of_lt_of_le (lt_next (lt_size_of_get?_eq_some h)) ih)
  | case3 => exact UInt64.le_refl _

theorem le_stop_run (c : C) (p : Predicate α) (i : Index) : i ≤ (run c p i).stop :=
  le_stop_runFrom c p p.start i

/-- A run that accepts its first element gets past it. -/
theorem lt_stop_run_of_yes (h : get? c i = some x) (hp : (p.test p.start x).1 = true) :
    i < (run c p i).stop := by
  rw [run, runFrom_of_yes h hp, Run.stop_after]
  exact UInt64.lt_of_lt_of_le (lt_next (lt_size_of_get?_eq_some h)) (le_stop_runFrom ..)

end Input

end ForwardCursor
