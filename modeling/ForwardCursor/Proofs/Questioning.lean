import ForwardCursor.Proofs.Safety

/-!
# Proofs/Questioning — a predicate is asked about one element after another

A predicate may remember what it was asked, so a question too many, one left out and one put twice
all change the answers behind it.  A run puts each element that is left to it once and in order,
until it says no or nothing is left.  What is passed is therefore the longest part from the start of
what was left that is answered with yes throughout, and there is one question more than elements
passed, unless the run comes to the end (`everywhere_asksInTurn`).

On lists, `Predicate.answers` says what a predicate answers to elements in order, going on from what
it remembers, and `Predicate.accepted` how many of them it says yes to before the first no.
-/

namespace ForwardCursor

variable {C α : Type}

/-! ## Answers on lists -/

namespace Predicate

variable {p : Predicate α} {s : p.State} {xs ys : List α}

/-- **What is accepted** is answered with yes throughout, and nothing longer is. -/
theorem forall_answers_iff (h : ys <+: xs) :
    (∀ b ∈ p.answers s ys, b = true) ↔ ys <+: xs.take (p.accepted s xs) := by
  induction ys generalizing s xs with
  | nil => exact iff_of_true nofun List.nil_prefix
  | cons y ys ih =>
    obtain ⟨zs, rfl⟩ := h
    rw [answers, List.forall_mem_cons, List.cons_append]
    rcases hy : (p.test s y).1 with _ | _
    · rw [accepted_cons_of_no hy, List.take_zero]
      exact iff_of_false (fun h => absurd h.1 Bool.false_ne_true)
        fun h => List.cons_ne_nil _ _ (List.prefix_nil.mp h)
    · rw [accepted_cons_of_yes hy, List.take_succ_cons, List.cons_prefix_cons,
        ih (List.prefix_append ys zs), eq_self, eq_self]

/-- **All that is asked about** is answered with yes, but for the element that is not accepted. -/
theorem answers_take_accepted (p : Predicate α) (s : p.State) (xs : List α) :
    p.answers s (xs.take (p.accepted s xs + 1)) =
      List.replicate (p.accepted s xs) true ++
        if (xs.drop (p.accepted s xs)).isEmpty then [] else [false] := by
  induction xs generalizing s with
  | nil => rfl
  | cons x xs ih =>
    rcases hx : (p.test s x).1 with _ | _
    · rw [accepted_cons_of_no hx, List.take_succ_cons, List.take_zero, answers, hx]
      rfl
    · rw [accepted_cons_of_yes hx, List.take_succ_cons, answers, hx, ih, List.replicate_succ,
        List.drop_succ_cons, List.cons_append]

end Predicate

open Input

variable [Input C α]

/-- **An outcome that asked a predicate about one element after another** of those that were left,
and passed the ones it said yes to. -/
structure Outcome.AsksInTurn {β : Type} (p : Predicate α) (rest : C) (passed : List α)
    (o : Outcome C α β) : Prop where
  /-- What was passed and what is left now is what was left before… -/
  append : ∃ rest', o.cursor.rest = .ok rest' ∧ toList rest = passed ++ toList rest'
  /-- …and what was passed is the longest part from its start with the answer yes throughout. -/
  longest {ys : List α} : ys <+: toList rest →
    ((∀ b ∈ p.answers p.start ys, b = true) ↔ ys <+: passed)
  /-- The predicate was asked about what was passed, in order and once each, and then about the next
  element, if there is one. -/
  asked : o.asked = passed ++ o.cursor.current?.toList
  /-- It answered as it does after the questions before: yes to what was passed, and no to the
  element that is next. -/
  answers : p.answers p.start o.asked =
    List.replicate passed.length true ++ if o.cursor.atEnd then [] else [false]
  /-- There was one question more than elements passed, unless the end was reached. -/
  length_asked : o.asked.length = passed.length + if o.cursor.atEnd then 0 else 1

namespace Cursor

/-- **A cursor whose runs ask a predicate about one element after another**; scanning gives back
what is passed. -/
def AsksInTurn [BEq α] (c : Cursor C) (p : Predicate α) : Prop :=
  ∃ rest passed, c.rest = .ok rest ∧ (c.skip (.run p)).AsksInTurn p rest passed ∧
    ∃ o, c.scan (.run p) = .ok o ∧ o.AsksInTurn p rest passed ∧ toList o.value = passed

variable [LawfulInput C] {c : C} {k : Nat} {p : Predicate α}

theorem outcome_asksInTurn {β : Type} {o : Outcome C α β} (hk : k ≤ (toList c).length)
    (hcursor : o.cursor = before c (k + p.accepted p.start (left c k)))
    (hasked : o.asked = (left c k).take (p.accepted p.start (left c k) + 1)) :
    o.AsksInTurn p (part c k (toList c).length)
      ((left c k).take (p.accepted p.start (left c k))) := by
  have hle := p.accepted_le_length p.start (left c k)
  have hlength : ((left c k).take (p.accepted p.start (left c k))).length =
      p.accepted p.start (left c k) := List.length_take_of_le hle
  have hend : o.cursor.atEnd = ((left c k).drop (p.accepted p.start (left c k))).isEmpty := by
    rw [hcursor, atEnd_before, drop_left]
  have hanswers := p.answers_take_accepted p.start (left c k)
  rw [← hasked, ← hend] at hanswers
  refine ⟨⟨part c (k + p.accepted p.start (left c k)) (toList c).length, ?_, ?_⟩, ?_, ?_, ?_, ?_⟩
  · rw [length_left] at hle
    rw [hcursor]
    exact rest_before c (by omega)
  · rw [length_left] at hle
    rw [toList_part_length hk, toList_part_length (by omega), ← drop_left, List.take_append_drop]
  · intro ys hys
    rw [toList_part_length hk] at hys
    exact Predicate.forall_answers_iff hys
  · rw [hasked, hcursor, current?_before, ← drop_left, List.head?_drop, List.take_add_one]
  · rw [hlength, hanswers]
  · have hcount := congrArg List.length hanswers
    rw [p.length_answers, List.length_append, List.length_replicate] at hcount
    rw [hlength, hcount]
    split <;> rfl

theorem asksInTurn_before [BEq α] (hk : k ≤ (toList c).length) (p : Predicate α) :
    (before c k).AsksInTurn p := by
  refine ⟨_, (left c k).take (p.accepted p.start (left c k)), rest_before c hk, ?_, _,
    scan_before c k _, ?_, ?_⟩
  · rw [skip_before]
    exact outcome_asksInTurn hk rfl rfl
  · rw [skip_before]
    exact outcome_asksInTurn hk rfl rfl
  · rw [Outcome.value_map, toList_part_add]
    rfl

end Cursor

/-- **A predicate is asked about one element after another.**  Wherever requests lead on a sequence
or a text, a run puts what is left to a predicate once each and in order, passes the longest part
from the start that is answered with yes throughout, and stops before the element that is not; and
scanning gives back what was passed. -/
theorem everywhere_asksInTurn :
    (∀ (α : Type) [BEq α] (s : Sequence α) (p : Predicate α),
      Cursor.Everywhere s fun c => c.AsksInTurn p) ∧
    (∀ (t : Text) (p : Predicate Char), Cursor.Everywhere t fun c => c.AsksInTurn p) :=
  ⟨fun _ _ _ p => Cursor.everywhere_of_before fun _ hk => Cursor.asksInTurn_before hk p,
    fun _ p => Cursor.everywhere_of_before fun _ hk => Cursor.asksInTurn_before hk p⟩

end ForwardCursor
