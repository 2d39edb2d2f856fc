import ForwardCursor.Request
import ForwardCursor.Proofs.Reading

/-!
# Proofs/Passage — what a cursor does, read off the elements that are left

`Cursor.before c k` is the cursor where the `k`-th element is read next.  Every operation takes such
a cursor to such a cursor: a move passes `Move.passed` elements, asks about `Move.asked`, reports
`Move.events`, and what it scans is the part between the two cursors, `part c k l`.  One equation
per operation says so, and nothing else about the operations is used further on.  Of an expectation
it is often enough to know that it gives back the elements it passes (`ask_expect_took`).
-/

namespace ForwardCursor

/-! ## Parts between counted places -/

namespace Input

variable {C α : Type} [Input C α]

/-- **The part from the `k`-th element up to the `l`-th.** -/
def part (c : C) (k l : Nat) : C := (slice? c (start c k) (start c l)).getD c

variable [LawfulInput C] {c : C} {k l : Nat}

theorem slice?_start_eq_part (c : C) (h : k ≤ l) :
    slice? c (start c k) (start c l) = some (part c k l) := by
  obtain ⟨d, hd, -⟩ := slice?_start c h
  rw [part, hd, Option.getD_some]

theorem toList_part (c : C) (h : k ≤ l) : toList (part c k l) = (left c k).take (l - k) := by
  obtain ⟨d, hd, hlist⟩ := slice?_start c h
  rw [part, hd, Option.getD_some, hlist]

theorem toList_part_add (c : C) (k n : Nat) :
    toList (part c k (k + n)) = (left c k).take n := by
  rw [toList_part c (Nat.le_add_right k n), Nat.add_sub_cancel_left]

theorem toList_part_length (hk : k ≤ (toList c).length) :
    toList (part c k (toList c).length) = left c k := by
  rw [toList_part c hk, ← length_left, List.take_length]

end Input

/-! ## Moves on lists -/

namespace Move

variable {α : Type} [BEq α]

/-- **How many elements a move passes**, of those that are left. -/
def passed : Move α → List α → Nat
  | .count n, xs => min n.toNat xs.length
  | .element y, xs => if xs.head?.any (· == y) then 1 else 0
  | .sequence ys, xs => if StartsWith ys xs then ys.length else 0
  | .run p, xs => p.accepted p.start xs
  | .members accepts, xs => (xs.takeWhile accepts).length
  | .upTo y, xs => (xs.takeWhile (· != y)).length
  | .through y, xs => min ((xs.takeWhile (· != y)).length + 1) xs.length
  | .upToSequence ys, xs => firstOccurrence ys xs
  | .upToMember accepts, xs => (xs.takeWhile (! accepts ·)).length

/-- **The elements a move asks its predicate about**: those it passes and the one it refuses. -/
def asked : Move α → List α → List α
  | .run p, xs => xs.take (p.accepted p.start xs + 1)
  | _, _ => []

/-- **What a move reports**, the place `j` elements ahead being at index `place j`. -/
def events : Move α → (Nat → Index) → List α → List Event
  | .sequence ys, place, xs =>
    if xs.isEmpty || !ys.isEmpty && decide (StartsWith ys xs) then [] else [.notMatched (place 0)]
  | .upToSequence (y :: ys), place, xs =>
    (falseStarts y ys xs).map (fun j => .rejected (place j)) ++
      if firstOccurrence (y :: ys) xs < xs.length then
        [.found (place (firstOccurrence (y :: ys) xs))] else []
  | _, _, _ => []

omit [BEq α] in
theorem length_takeWhile_le (p : α → Bool) (xs : List α) : (xs.takeWhile p).length ≤ xs.length :=
  (List.takeWhile_prefix p).length_le

/-- **A move passes no more than there is.** -/
theorem passed_le_length (m : Move α) (xs : List α) : m.passed xs ≤ xs.length := by
  cases m with
  | count n => exact Nat.min_le_right ..
  | element y =>
    rw [passed]
    cases xs with
    | nil => exact Nat.le_refl 0
    | cons x xs => split <;> simp
  | sequence ys =>
    rw [passed]
    split
    · next h => exact h.length_le
    · exact Nat.zero_le _
  | run p => exact p.accepted_le_length p.start xs
  | members accepts => exact length_takeWhile_le ..
  | upTo y => exact length_takeWhile_le ..
  | through y => exact Nat.min_le_right ..
  | upToSequence ys => exact firstOccurrence_le_length ys xs
  | upToMember accepts => exact length_takeWhile_le ..

/-- **One element is a sequence of one element.** -/
theorem passed_sequence_singleton (y : α) (xs : List α) :
    passed (.sequence [y]) xs = passed (.element y) xs := by
  rcases xs with _ | ⟨x, xs⟩
  · rfl
  · rw [passed, passed, List.head?_cons, Option.any_some, List.length_singleton]
    simp only [startsWith_singleton_cons]

/-- **Up to one element is up to a sequence of one element.** -/
theorem passed_upToSequence_singleton (y : α) (xs : List α) :
    passed (.upToSequence [y]) xs = passed (.upTo y) xs := by
  rw [passed, passed]
  induction xs with
  | nil => rfl
  | cons x xs ih =>
    rw [firstOccurrence, ih]
    cases hxy : x == y with
    | true =>
      rw [if_pos (startsWith_singleton_cons.mpr hxy),
        List.takeWhile_cons_of_neg (by simp [bne, hxy])]
      rfl
    | false =>
      rw [if_neg (by simp [startsWith_singleton_cons, hxy]),
        List.takeWhile_cons_of_pos (by simp [bne, hxy])]
      rfl

end Move

open Input

/-- **The elements an answer gives back** — those of a part, an element, or none. -/
def Answer.taken {C α : Type} [Input C α] : Answer C α → List α
  | .element x => x.toList
  | .span s => toList s
  | .expectedElement (.ok x) => [x]
  | .expectedSpan (.ok s) => toList s
  | _ => []

namespace Cursor

variable {C α : Type} [Input C α] [LawfulInput C]

/-- **The cursor before the `k`-th element**, or at the end if there are no more than `k`. -/
def before (c : C) (k : Nat) : Cursor C := ⟨c, start c k⟩

omit [LawfulInput C] in
@[simp] theorem input_before (c : C) (k : Nat) : (before c k).input = c := rfl

omit [LawfulInput C] in
@[simp] theorem position_before (c : C) (k : Nat) : (before c k).position = start c k := rfl

omit [LawfulInput C] in
@[simp] theorem place_before (c : C) (k l : Nat) :
    (before c k).place (start c l) = before c l := rfl

omit [LawfulInput C] in
@[simp] theorem size_before (c : C) (k : Nat) : (before c k).size = Input.size c := rfl

omit [LawfulInput C] in
theorem ofInput_eq_before (c : C) : ofInput c = before c 0 := rfl

theorem before_min_length (c : C) (k : Nat) : before c (min k (toList c).length) = before c k := by
  rw [before, start_min_length, before]

/-- A number of elements to pass may be cut down to those that are left. -/
theorem before_add_min_length (c : C) (k n : Nat) :
    before c (k + min n (left c k).length) = before c (k + n) := by
  rw [← before_min_length c (k + n), ← before_min_length, length_left]
  congr 1
  omega

/-! ## Seeing and placing -/

@[simp] theorem current?_before (c : C) (k : Nat) : (before c k).current? = (left c k).head? :=
  get?_start_eq_head? c k

theorem atEnd_before (c : C) (k : Nat) : (before c k).atEnd = (left c k).isEmpty := by
  rw [Bool.eq_iff_iff, atEnd, decide_eq_true_eq, List.isEmpty_iff, left, List.drop_eq_nil_iff,
    size_before, position_before, ← start_min_length, size_le_start_iff (Nat.min_le_right ..)]
  omega

@[simp] theorem advance_before (c : C) (k : Nat) : (before c k).advance = before c (k + 1) := by
  rw [advance, atEnd_before]
  split
  · next h =>
    rw [List.isEmpty_iff, left, List.drop_eq_nil_iff] at h
    rw [before, before, start_of_length_le h, start_of_length_le (Nat.le_succ_of_le h)]
  · rfl

@[simp] theorem peek?_before (c : C) (k : Nat) (n : Index) :
    (before c k).peek? n = (toList c)[k + n.toNat]? :=
  forward?_start_bind_get? c k n

theorem slice_start (c : C) {k l m : Nat} (h : k ≤ l) :
    (before c m).slice (start c k) (start c l) = .ok (part c k l) := by
  rw [slice, input_before, slice?_start_eq_part c h]

@[simp] theorem spanFrom_before (c : C) {k l : Nat} (h : k ≤ l) :
    (before c l).spanFrom (start c k) = .ok (part c k l) := slice_start c h

@[simp] theorem ahead_before (c : C) (k : Nat) (n : Index) :
    (before c k).ahead n = .ok (part c k (k + n.toNat)) := by
  rw [ahead, input_before, position_before, forwardOrEnd_start]
  exact slice_start c (Nat.le_add_right ..)

theorem rest_before (c : C) {k : Nat} (hk : k ≤ (toList c).length) :
    (before c k).rest = .ok (part c k (toList c).length) := by
  rw [rest, size_before, ← LawfulInput.start_length]
  exact slice_start c hk

/-- **Since a mark** a cursor passed the elements from the last boundary at or before it. -/
theorem since_before (c : C) {k : Nat} (hk : k ≤ (toList c).length) (m : Mark) :
    (before c k).since m = .ok (part c (min (countUpTo c m.position) k) k) := by
  rw [since, input_before, position_before, floor_min_start hk]
  exact spanFrom_before c (Nat.min_le_right ..)

theorem cursor_moveTo_before (c : C) (k : Nat) (i : Index) :
    ((before c k).moveTo i).cursor = before c (countUpTo c i) := by
  rw [moveTo]
  exact congrArg (Cursor.mk c) (floor_eq_start_countUpTo c i)

/-! ## Moving -/

theorem past_before (c : C) (test : α → Bool) (k : Nat) :
    (before c k).past test = before c (k + ((left c k).takeWhile test).length) :=
  congrArg (Cursor.mk c) (run_ofFun_start c test k)

variable [BEq α]

@[simp] theorem startsWith_before (c : C) (ys : List α) (k : Nat) :
    (before c k).startsWith ys = (!ys.isEmpty && decide (StartsWith ys (left c k))) := by
  rw [startsWith, input_before, position_before]
  cases ys with
  | nil => rfl
  | cons y ys =>
    rw [matchFrom?_cons_start]
    split
    · next h => simp [h]
    · next h => simp [h]

theorem upTo_before (c : C) (y : α) (k : Nat) :
    (before c k).upTo y = before c (k + ((left c k).takeWhile (· != y)).length) :=
  congrArg (Cursor.mk c) (indexOf_start c y k)

theorem skipSequence_before (c : C) (ys : List α) (k : Nat) :
    (before c k).skipSequence ys = ⟨(), before c (k + Move.passed (.sequence ys) (left c k)), [],
      Move.events (.sequence ys) (fun j => start c (k + j)) (left c k)⟩ := by
  rw [skipSequence, atEnd_before, Move.events, Move.passed]
  cases hleft : left c k with
  | nil =>
    -- nothing is left to match: the empty sequence passes nothing, any other is not there
    cases ys with
    | nil => rfl
    | cons y ys => rw [if_neg (not_startsWith_cons_nil y ys)]; rfl
  | cons x xs =>
    cases ys with
    | nil => rw [if_pos (startsWith_nil _)]; rfl
    | cons y ys =>
      rw [input_before, position_before, matchFrom?_cons_start, hleft]
      by_cases hs : StartsWith (y :: ys) (x :: xs)
      · rw [if_pos hs, if_pos hs]
        simp [hs, answer]
      · rw [if_neg hs, if_neg hs]
        simp [hs]

theorem skipUpToSequence_before (c : C) (ys : List α) (k : Nat) :
    (before c k).skipUpToSequence ys =
      ⟨(), before c (k + Move.passed (.upToSequence ys) (left c k)), [],
        Move.events (.upToSequence ys) (fun j => start c (k + j)) (left c k)⟩ := by
  cases ys with
  | nil => rw [Move.passed, firstOccurrence_nil_left]; rfl
  | cons y ys => rw [skipUpToSequence, input_before, position_before, search, searchFrom_start]; rfl

/-- **A move passes what it passes of the list that is left.** -/
theorem skip_before (c : C) (k : Nat) (m : Move α) :
    (before c k).skip m = ⟨(), before c (k + m.passed (left c k)), m.asked (left c k),
      m.events (fun j => start c (k + j)) (left c k)⟩ := by
  cases m with
  | count n =>
    rw [skip, input_before, position_before, forwardOrEnd_start, place_before, Move.passed,
      before_add_min_length]
    rfl
  | element y =>
    rw [skip, current?_before, advance_before, Move.passed]
    split <;> rfl
  | sequence ys => exact skipSequence_before c ys k
  | run p =>
    rw [skip, skipRun, input_before, position_before, run, runFrom_start]
    rfl
  | members accepts => rw [skip, past_before]; rfl
  | upTo y => rw [skip, upTo_before]; rfl
  | through y =>
    rw [skip, upTo_before, advance_before, Move.passed, before_add_min_length, ← Nat.add_assoc]
    rfl
  | upToSequence ys => exact skipUpToSequence_before c ys k
  | upToMember accepts => rw [skip, past_before]; rfl

/-- **Scanning never asks for a part that is not there.** -/
theorem scan_before (c : C) (k : Nat) (m : Move α) :
    (before c k).scan m = .ok (((before c k).skip m).map
      fun _ => part c k (k + m.passed (left c k))) := by
  rw [scan, skip_before, position_before]
  simp only [spanFrom_before c (Nat.le_add_right k _)]
  rfl

/-- **A scan answers with the elements it walks over.** -/
theorem walk_scan {c : C} {k : Nat} (hk : k ≤ (toList c).length) (m : Move α) :
    ∃ o, (before c k).scan m = .ok o ∧ o.cursor = ((before c k).skip m).cursor ∧
      Walk c (start c k) (toList o.value) o.cursor.position := by
  refine ⟨_, scan_before c k m, rfl, ?_⟩
  have hle := m.passed_le_length (left c k)
  rw [length_left] at hle
  have hwalk := walk_start c (n := m.passed (left c k)) (show k + _ ≤ _ by omega)
  rw [Outcome.value_map, Outcome.cursor_map, skip_before, toList_part_add]
  exact hwalk

/-- **Two moves in a row that make up a third** — they lead where it leads, and the parts that are
scanned by them are together the part that is scanned by it. -/
structure MakeUp (c : Cursor C) (m m' whole : Move α) : Prop where
  /-- They lead where the third leads. -/
  cursor_skip : ((c.skip m).cursor.skip m').cursor = (c.skip whole).cursor
  /-- They scan what the third scans. -/
  scan : ∃ o u w, c.scan m = .ok o ∧ o.cursor.scan m' = .ok u ∧ c.scan whole = .ok w ∧
    toList o.value ++ toList u.value = toList w.value

/-- **Moves make up another** if they pass as many elements. -/
theorem makeUp_of_passed {c : C} {k : Nat} {m m' whole : Move α}
    (h : whole.passed (left c k) =
      m.passed (left c k) + m'.passed ((left c k).drop (m.passed (left c k)))) :
    (before c k).MakeUp m m' whole := by
  rw [drop_left] at h
  have hcursor : ((before c k).skip m).cursor = before c (k + m.passed (left c k)) :=
    congrArg Outcome.cursor (skip_before c k m)
  constructor
  · rw [hcursor, skip_before, skip_before, h, Nat.add_assoc]
  · have hscan := scan_before c (k + m.passed (left c k)) m'
    rw [← hcursor] at hscan
    refine ⟨_, _, _, scan_before c k m, hscan, scan_before c k whole, ?_⟩
    rw [Outcome.value_map, Outcome.value_map, Outcome.value_map, toList_part_add, toList_part_add,
      toList_part_add, h, List.take_add, drop_left]

/-! ## Expecting -/

theorem expectElement_of_nil {c : C} {k : Nat} (y : α) (h : left c k = []) :
    (before c k).expectElement y =
      ⟨.error (.endOfInput (start c k)), before c k, [], [.elementAtEnd (start c k)]⟩ := by
  rw [expectElement, current?_before, h]
  rfl

theorem expectElement_of_cons {c : C} {k : Nat} {x : α} {xs : List α} (y : α)
    (h : left c k = x :: xs) :
    (before c k).expectElement y =
      if x == y then (before c (k + 1)).answer (.ok x)
      else ⟨.error (.mismatch (start c k)), before c k, [], [.elementDiffers (start c k)]⟩ := by
  rw [expectElement, current?_before, h, List.head?_cons, advance_before]
  rfl

theorem expectSequence_before (c : C) (ys : List α) (k : Nat) :
    (before c k).expectSequence ys =
      .ok (if StartsWith ys (left c k) then
          (before c (k + ys.length)).answer (.ok (part c k (k + ys.length)))
        else ⟨.error (shortfall ys (left c k) fun j => start c (k + j)), before c k, [],
          [.sequenceUnmet (start c k) (shortfall ys (left c k) fun j => start c (k + j))]⟩) := by
  rw [expectSequence, input_before, position_before, matchFrom_start]
  split
  · next h =>
    split at h
    · next hs =>
      obtain rfl := Except.ok.inj h
      rw [place_before, spanFrom_before c (Nat.le_add_right ..), if_pos hs]
      rfl
    · cases h
  · next h =>
    split at h
    · cases h
    · next hs =>
      obtain rfl := Except.error.inj h
      rw [if_neg hs]

theorem expectMembers_of_nil {c : C} {k : Nat} (accepts : α → Bool) (h : left c k = []) :
    (before c k).expectMembers accepts =
      .ok ((before c k).answer (.error (.endOfInput (start c k)))) := by
  rw [expectMembers, current?_before, h]
  rfl

theorem expectMembers_of_cons {c : C} {k : Nat} {x : α} {xs : List α} (accepts : α → Bool)
    (h : left c k = x :: xs) :
    (before c k).expectMembers accepts =
      .ok (if accepts x then
          (before c (k + ((x :: xs).takeWhile accepts).length)).answer
            (.ok (part c k (k + ((x :: xs).takeWhile accepts).length)))
        else ⟨.error (.mismatch (start c k)), before c k, [], [.notMember (start c k)]⟩) := by
  rw [expectMembers, current?_before, h, List.head?_cons]
  simp only [scan_before, skip_before, h]
  split <;> rfl

/-! ## Requests that take a part -/

theorem ask_ahead_before (c : C) (k : Nat) (n : Index) :
    (before c k).ask (.ahead n) =
      .ok ((before c k).answer (.span (part c k (k + n.toNat)))) := by
  rw [ask, ahead_before]
  rfl

theorem ask_rest_before (c : C) {k : Nat} (hk : k ≤ (toList c).length) :
    (before c k).ask .rest = .ok ((before c k).answer (.span (part c k (toList c).length))) := by
  rw [ask, rest_before c hk]
  rfl

theorem ask_since_before (c : C) {k : Nat} (hk : k ≤ (toList c).length) (m : Mark) :
    (before c k).ask (.since m) =
      .ok ((before c k).answer (.span (part c (min (countUpTo c m.position) k) k))) := by
  rw [ask, since_before c hk]
  rfl

theorem ask_scan_before (c : C) (k : Nat) (m : Move α) :
    (before c k).ask (.scan m) = .ok ⟨.span (part c k (k + m.passed (left c k))),
      before c (k + m.passed (left c k)), m.asked (left c k),
      m.events (fun j => start c (k + j)) (left c k)⟩ := by
  rw [ask, scan_before, skip_before]
  rfl

/-! ## What an expectation takes -/

/-- **An outcome that took the next `n` elements** behind the first `k`. -/
structure Took (c : C) (k n : Nat) (o : Outcome C α (Answer C α)) : Prop where
  /-- The cursor has passed them. -/
  cursor : o.cursor = before c (k + n)
  /-- There are as many. -/
  le_length : n ≤ (left c k).length
  /-- They are what is given back. -/
  taken : o.value.taken = (left c k).take n

variable {c : C} {k : Nat}

omit [BEq α] [LawfulInput C] in
theorem took_none {o : Outcome C α (Answer C α)} (hcursor : o.cursor = before c k)
    (htaken : o.value.taken = []) : Took c k 0 o :=
  ⟨hcursor, Nat.zero_le _, htaken.trans List.take_zero.symm⟩

theorem ask_expectElement_took (y : α) :
    ∃ o n, (before c k).ask (.expect (.element y)) = .ok o ∧ Took c k n o := by
  rcases hleft : left c k with _ | ⟨x, xs⟩
  · rw [ask, expectElement_of_nil y hleft]
    exact ⟨_, 0, rfl, took_none rfl rfl⟩
  · rw [ask, expectElement_of_cons y hleft]
    split
    · refine ⟨_, 1, rfl, rfl, ?_, ?_⟩
      · rw [hleft]
        exact Nat.succ_le_succ (Nat.zero_le _)
      · rw [hleft]
        rfl
    · exact ⟨_, 0, rfl, took_none rfl rfl⟩

theorem ask_expectSequence_took (ys : List α) :
    ∃ o n, (before c k).ask (.expect (.sequence ys)) = .ok o ∧ Took c k n o := by
  rw [ask, expectSequence_before]
  split
  · next hs => exact ⟨_, ys.length, rfl, rfl, hs.length_le, toList_part_add c k ys.length⟩
  · exact ⟨_, 0, rfl, took_none rfl rfl⟩

theorem ask_expectMembers_took (accepts : α → Bool) :
    ∃ o n, (before c k).ask (.expect (.members accepts)) = .ok o ∧ Took c k n o := by
  rcases hleft : left c k with _ | ⟨x, xs⟩
  · rw [ask, expectMembers_of_nil accepts hleft]
    exact ⟨_, 0, rfl, took_none rfl rfl⟩
  · rw [ask, expectMembers_of_cons accepts hleft]
    split
    · exact ⟨_, _, rfl, rfl, hleft ▸ Move.length_takeWhile_le .., toList_part_add c k _⟩
    · exact ⟨_, 0, rfl, took_none rfl rfl⟩

/-- **An expectation** gives back the elements it passes, and one that is not met passes none. -/
theorem ask_expect_took (c : C) (k : Nat) (e : Expectation α) :
    ∃ o n, (before c k).ask (.expect e) = .ok o ∧ Took c k n o := by
  cases e with
  | element y => exact ask_expectElement_took y
  | sequence ys => exact ask_expectSequence_took ys
  | members accepts => exact ask_expectMembers_took accepts

end Cursor

end ForwardCursor
