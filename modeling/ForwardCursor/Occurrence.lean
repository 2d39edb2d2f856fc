import ForwardCursor.Event
import ForwardCursor.Run

/-!
# Occurrence — where a sequence of elements is found in an input

`matchFrom` compares a sequence, element by element, with what starts at an index; `search` looks
for the first index where the comparison succeeds.  A search runs to the next element that equals
the first of the sequence, compares the whole there, and on a failure goes on one element further;
its events are the candidates it tried.

An element of the input stands on the left of `==` and the expected one on the right.
-/

namespace ForwardCursor

namespace Input

variable {C α : Type} [Input C α] [BEq α]

/-- **Comparing a sequence with what starts at an index** — the index just past it, or why it is not
there. -/
def matchFrom (c : C) : List α → Index → Except Unmet Index
  | [], i => .ok i
  | y :: ys, i =>
    match get? c i with
    | none => .error (.endOfInput (size c))
    | some x => if x == y then matchFrom c ys (next c i) else .error (.mismatch i)

/-- The same, for a sequence that has to be something: the empty one is found nowhere. -/
def matchFrom? (c : C) (ys : List α) (i : Index) : Option Index :=
  if ys.isEmpty then none else (matchFrom c ys i).toOption

/-- **What was matched lies behind the index past it.** -/
theorem le_of_matchFrom {c : C} : ∀ {ys : List α} {i j : Index}, matchFrom c ys i = .ok j → i ≤ j
  | [], i, j, h => by
    rw [← Except.ok.inj h]
    exact UInt64.le_refl i
  | y :: ys, i, j, h => by
    rw [matchFrom] at h
    split at h
    · cases h
    · next x hx =>
      split at h
      · exact UInt64.le_of_lt
          (UInt64.lt_of_lt_of_le (lt_next (lt_size_of_get?_eq_some hx)) (le_of_matchFrom h))
      · cases h

/-- Where the first element at or after an index starts that equals `y`, or the end. -/
def indexOf (c : C) (y : α) (i : Index) : Index := (run c (.ofFun (· != y)) i).stop

theorem le_indexOf (c : C) (y : α) (i : Index) : i ≤ indexOf c y i := le_stop_run ..

end Input

/-- **What a search comes to.** -/
structure Search where
  /-- Where it stops. -/
  stop : Index
  /-- The candidates it tried, in order. -/
  events : List Event

namespace Search

/-- The search that goes on after a candidate was rejected. -/
def after (candidate : Index) (s : Search) : Search :=
  ⟨s.stop, .rejected candidate :: s.events⟩

@[simp] theorem stop_after (i : Index) (s : Search) : (s.after i).stop = s.stop := rfl

@[simp] theorem events_after (i : Index) (s : Search) :
    (s.after i).events = .rejected i :: s.events := rfl

end Search

namespace Input

variable {C α : Type} [Input C α] [BEq α]

/-- **The search for a sequence that starts with `y`** — it stops at the first occurrence, or at the
end. -/
def searchFrom (c : C) (y : α) (ys : List α) (i : Index) : Search :=
  let candidate := indexOf c y i
  if size c ≤ candidate then ⟨candidate, []⟩
  else if (matchFrom? c (y :: ys) candidate).isSome then ⟨candidate, [.found candidate]⟩
  else (searchFrom c y ys (next c candidate)).after candidate
termination_by (size c).toNat - i.toNat
decreasing_by
  have h₁ := UInt64.le_iff_toNat_le.mp (le_indexOf c y i)
  have h₂ := size_sub_next_lt (c := c) (i := indexOf c y i) (UInt64.not_le.mp ‹_›)
  omega

/-- The search for a sequence; the empty one is not looked for. -/
def search (c : C) : List α → Index → Search
  | [], i => ⟨i, []⟩
  | y :: ys, i => searchFrom c y ys i

/-- **A search never stops before it starts.** -/
theorem le_stop_searchFrom (c : C) (y : α) (ys : List α) (i : Index) :
    i ≤ (searchFrom c y ys i).stop := by
  fun_induction searchFrom c y ys i with
  | case1 i => exact le_indexOf c y i
  | case2 i => exact le_indexOf c y i
  | case3 i candidate h _ ih =>
    have hlt : candidate < next c candidate := lt_next (UInt64.not_le.mp h)
    exact UInt64.le_trans (le_indexOf c y i) (UInt64.le_trans (UInt64.le_of_lt hlt) ih)

theorem le_stop_search (c : C) (ys : List α) (i : Index) : i ≤ (search c ys i).stop := by
  cases ys with
  | nil => exact UInt64.le_refl _
  | cons y ys => exact le_stop_searchFrom c y ys i

end Input

end ForwardCursor
