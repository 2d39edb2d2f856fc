import ForwardCursor.Occurrence
import ForwardCursor.Proofs.Boundary
import Mathlib.Data.List.TakeWhile

/-!
# Proofs/Reading — runs, comparisons and searches, read off the elements that are left

Started behind `k` elements of a lawful input, a run, a comparison and a search depend on `left c k`
alone: each passes a number of elements that a function on lists gives (`Predicate.accepted`,
`agreement`, `firstOccurrence`), and its indices are the starts that number leads to.
-/

namespace ForwardCursor

variable {α : Type}

/-! ## On lists -/

section TakeWhile

variable {p : α → Bool} {xs ys : List α}

theorem take_length_takeWhile (p : α → Bool) (xs : List α) :
    xs.take (xs.takeWhile p).length = xs.takeWhile p :=
  (List.prefix_iff_eq_take.mp (List.takeWhile_prefix p)).symm

theorem drop_length_takeWhile (p : α → Bool) (xs : List α) :
    xs.drop (xs.takeWhile p).length = xs.dropWhile p := by
  have h := congrArg (List.drop (xs.takeWhile p).length)
    (List.takeWhile_append_dropWhile (p := p) (l := xs))
  rwa [List.drop_left, eq_comm] at h

/-- **A run stops** at the end or at an element that does not pass. -/
theorem of_mem_head?_dropWhile (p : α → Bool) (xs : List α) :
    ∀ x ∈ (xs.dropWhile p).head?, p x = false := by
  intro x hx
  have h := List.head?_dropWhile_not p xs
  rwa [Option.mem_def.mp hx] at h

/-- **What passes, up to what does not**, is the run. -/
theorem takeWhile_append_of_head? (hx : ∀ x ∈ xs, p x = true) (hy : ∀ y ∈ ys.head?, p y = false) :
    (xs ++ ys).takeWhile p = xs := by
  rw [List.takeWhile_append_of_pos hx]
  rcases ys with _ | ⟨y, ys⟩
  · rw [List.takeWhile_nil, List.append_nil]
  · rw [List.takeWhile_cons_of_neg (by simp [hy y rfl]), List.append_nil]

/-- **What passes, up to what does not**, is dropped. -/
theorem dropWhile_append_of_head? (hx : ∀ x ∈ xs, p x = true) (hy : ∀ y ∈ ys.head?, p y = false) :
    (xs ++ ys).dropWhile p = ys := by
  rw [List.dropWhile_append_of_pos hx]
  rcases ys with _ | ⟨y, ys⟩
  · rfl
  · rw [List.dropWhile_cons_of_neg (by simp [hy y rfl])]

theorem dropWhile_ne_of_mem [BEq α] [LawfulBEq α] {y : α} (h : y ∈ xs) :
    ∃ zs, xs.dropWhile (· != y) = y :: zs := by
  rcases hdrop : xs.dropWhile (· != y) with _ | ⟨z, zs⟩
  · simpa using List.dropWhile_eq_nil_iff.mp hdrop y h
  · have hz : z = y := by simpa using of_mem_head?_dropWhile (· != y) xs z (by rw [hdrop]; rfl)
    exact ⟨zs, by rw [hz]⟩

theorem dropWhile_ne_of_not_mem [BEq α] [LawfulBEq α] {y : α} (h : y ∉ xs) :
    xs.dropWhile (· != y) = [] :=
  List.dropWhile_eq_nil_iff.mpr fun _ hx => bne_iff_ne.mpr fun hxy => h (hxy ▸ hx)

end TakeWhile

namespace Predicate

/-- **How many elements a predicate accepts in a row.** -/
def accepted (p : Predicate α) (s : p.State) (xs : List α) : Nat :=
  ((p.answers s xs).takeWhile id).length

variable {p : Predicate α} {s : p.State} {x : α} {xs : List α}

theorem accepted_cons_of_yes (h : (p.test s x).1 = true) :
    p.accepted s (x :: xs) = p.accepted (p.test s x).2 xs + 1 := by
  rw [accepted, answers, h, List.takeWhile_cons_of_pos rfl, List.length_cons, accepted]

theorem accepted_cons_of_no (h : (p.test s x).1 = false) : p.accepted s (x :: xs) = 0 := by
  rw [accepted, answers, h, List.takeWhile_cons_of_neg (by simp), List.length_nil]

theorem accepted_le_length (p : Predicate α) (s : p.State) (xs : List α) :
    p.accepted s xs ≤ xs.length := by
  rw [← p.length_answers s xs]
  exact (List.takeWhile_prefix id).length_le

theorem answers_ofFun (q : α → Bool) (s : (ofFun q).State) (xs : List α) :
    (ofFun q).answers s xs = xs.map q := by
  induction xs with
  | nil => rfl
  | cons x xs ih => exact congrArg (q x :: ·) ih

theorem accepted_ofFun (q : α → Bool) (s : (ofFun q).State) (xs : List α) :
    (ofFun q).accepted s xs = (xs.takeWhile q).length := by
  rw [accepted, answers_ofFun, List.takeWhile_map, List.length_map, Function.id_comp]

end Predicate

section Occurrence

variable [BEq α] {x y : α} {xs ys : List α}

/-- **How many elements of a list agree with those looked for**, one by one from the first. -/
def agreement : List α → List α → Nat
  | y :: ys, x :: xs => if x == y then agreement ys xs + 1 else 0
  | _, _ => 0

@[simp] theorem agreement_nil_left (xs : List α) : agreement [] xs = 0 := by
  unfold agreement
  rfl

@[simp] theorem agreement_nil_right (ys : List α) : agreement ys [] = 0 := by
  cases ys <;> rfl

theorem agreement_cons_of_eq (h : (x == y) = true) :
    agreement (y :: ys) (x :: xs) = agreement ys xs + 1 := if_pos h

theorem agreement_cons_of_ne (h : (x == y) = false) : agreement (y :: ys) (x :: xs) = 0 :=
  if_neg (by simp [h])

theorem agreement_le_left : ∀ ys xs : List α, agreement ys xs ≤ ys.length
  | [], xs => by simp
  | y :: ys, [] => by simp
  | y :: ys, x :: xs => by
    have := agreement_le_left ys xs
    rw [agreement, List.length_cons]
    split <;> omega

theorem agreement_le_right : ∀ ys xs : List α, agreement ys xs ≤ xs.length
  | [], xs => by simp
  | y :: ys, [] => by simp
  | y :: ys, x :: xs => by
    have := agreement_le_right ys xs
    rw [agreement, List.length_cons]
    split <;> omega

/-- **A list starts with what is looked for**, element by element. -/
def StartsWith (ys xs : List α) : Prop := agreement ys xs = ys.length

instance : Decidable (StartsWith ys xs) := inferInstanceAs (Decidable (_ = _))

theorem startsWith_nil (xs : List α) : StartsWith [] xs := agreement_nil_left xs

theorem not_startsWith_cons_nil (y : α) (ys : List α) : ¬ StartsWith (y :: ys) [] := by
  simp [StartsWith]

theorem startsWith_cons_cons :
    StartsWith (y :: ys) (x :: xs) ↔ (x == y) = true ∧ StartsWith ys xs := by
  rw [StartsWith, StartsWith]
  cases h : x == y with
  | false => simp [agreement_cons_of_ne h]
  | true => simp [agreement_cons_of_eq h]

theorem startsWith_singleton_cons : StartsWith [y] (x :: xs) ↔ (x == y) = true := by
  rw [startsWith_cons_cons, and_iff_left (startsWith_nil xs)]

theorem StartsWith.length_le (h : StartsWith ys xs) : ys.length ≤ xs.length :=
  h ▸ agreement_le_right ys xs

/-- **Why a list does not start with what is looked for**, the place `j` elements ahead being at
index `place j`. -/
def shortfall (ys xs : List α) (place : Nat → Index) : Unmet :=
  if agreement ys xs = xs.length then .endOfInput (place (agreement ys xs))
  else .mismatch (place (agreement ys xs))

/-- **How many elements come before the first place where a list starts with what is looked for**,
all of them if there is no such place. -/
def firstOccurrence (ys : List α) : List α → Nat
  | [] => 0
  | x :: xs => if StartsWith ys (x :: xs) then 0 else firstOccurrence ys xs + 1

theorem firstOccurrence_of_startsWith (h : StartsWith ys xs) : firstOccurrence ys xs = 0 := by
  rcases xs with _ | ⟨x, xs⟩
  · rfl
  · exact if_pos h

theorem firstOccurrence_nil_left (xs : List α) : firstOccurrence [] xs = 0 :=
  firstOccurrence_of_startsWith (startsWith_nil xs)

theorem firstOccurrence_le_length : ∀ ys xs : List α, firstOccurrence ys xs ≤ xs.length
  | _, [] => Nat.le_refl 0
  | ys, x :: xs => by
    have := firstOccurrence_le_length ys xs
    rw [firstOccurrence, List.length_cons]
    split <;> omega

/-- **The candidates before the first occurrence** — the places where only its first element is. -/
def falseStarts (y : α) (ys xs : List α) : List Nat :=
  (List.range (firstOccurrence (y :: ys) xs)).filter fun j => xs[j]?.any (· == y)

theorem falseStarts_of_startsWith (h : StartsWith (y :: ys) xs) : falseStarts y ys xs = [] := by
  rw [falseStarts, firstOccurrence_of_startsWith h, List.range_zero, List.filter_nil]

theorem falseStarts_cons (h : ¬ StartsWith (y :: ys) (x :: xs)) :
    falseStarts y ys (x :: xs) =
      (if x == y then [0] else []) ++ (falseStarts y ys xs).map (· + 1) := by
  have hhead : Option.any (· == y) (x :: xs)[0]? = (x == y) := rfl
  rw [falseStarts, firstOccurrence, if_neg h, List.range_succ_eq_map, List.filter_cons,
    List.filter_map, hhead, falseStarts]
  split <;> rfl

/-- **What starts nowhere in a stretch** first occurs behind it. -/
theorem firstOccurrence_append {zs : List α}
    (h : ∀ j < zs.length, ¬ StartsWith ys ((zs ++ xs).drop j)) :
    firstOccurrence ys (zs ++ xs) = zs.length + firstOccurrence ys xs := by
  induction zs with
  | nil => rw [List.nil_append, List.length_nil, Nat.zero_add]
  | cons z zs ih =>
    have hhead : ¬ StartsWith ys (z :: (zs ++ xs)) := h 0 (Nat.zero_lt_succ _)
    have htail := ih fun j hj => h (j + 1) (Nat.succ_lt_succ hj)
    rw [List.cons_append, firstOccurrence, if_neg hhead, htail, List.length_cons]
    omega

/-- **At the first occurrence** there is one. -/
theorem startsWith_drop_firstOccurrence (h : firstOccurrence ys xs < xs.length) :
    StartsWith ys (xs.drop (firstOccurrence ys xs)) := by
  induction xs with
  | nil => exact absurd h (Nat.not_lt_zero _)
  | cons x xs ih =>
    by_cases hs : StartsWith ys (x :: xs)
    · rwa [firstOccurrence_of_startsWith hs]
    · rw [firstOccurrence, if_neg hs] at h ⊢
      exact ih (Nat.lt_of_succ_lt_succ h)

/-- **Before the first occurrence** there is none. -/
theorem not_startsWith_of_lt_firstOccurrence {j : Nat} (h : j < firstOccurrence ys xs) :
    ¬ StartsWith ys (xs.drop j) := by
  induction xs generalizing j with
  | nil => exact absurd h (Nat.not_lt_zero j)
  | cons x xs ih =>
    rw [firstOccurrence] at h
    split at h
    · exact absurd h (Nat.not_lt_zero j)
    · next hs =>
      rcases j with _ | j
      · exact hs
      · exact ih (Nat.lt_of_succ_lt_succ h)

/-- **The first occurrence** is at or before any other, and none is at the end. -/
theorem firstOccurrence_le_of_startsWith {j : Nat} (hne : ys ≠ [])
    (h : StartsWith ys (xs.drop j)) : firstOccurrence ys xs ≤ j ∧ j < xs.length := by
  constructor
  · by_contra hlt
    exact not_startsWith_of_lt_firstOccurrence (Nat.lt_of_not_le hlt) h
  · have hpos := List.length_pos_iff.mpr hne
    have hle := h.length_le
    rw [List.length_drop] at hle
    omega

end Occurrence

section Prefix

variable [BEq α] [LawfulBEq α] {xs ys zs : List α}

/-- **Where equality is equality**, a list starts with its prefixes. -/
theorem startsWith_iff_isPrefix : StartsWith ys xs ↔ ys <+: xs := by
  induction ys generalizing xs with
  | nil => exact iff_of_true (startsWith_nil xs) List.nil_prefix
  | cons y ys ih =>
    rcases xs with _ | ⟨x, xs⟩
    · exact iff_of_false (not_startsWith_cons_nil y ys) (by simp)
    · rw [startsWith_cons_cons, List.cons_prefix_cons, beq_iff_eq, ih, eq_comm]

/-- **A sequence occurs in a list** if it is a part of it. -/
theorem firstOccurrence_lt_iff_isInfix (hne : ys ≠ []) :
    firstOccurrence ys xs < xs.length ↔ ys <:+: xs := by
  constructor
  · intro h
    exact (startsWith_iff_isPrefix.mp (startsWith_drop_firstOccurrence h)).isInfix.trans
      (List.drop_suffix _ xs).isInfix
  · rintro ⟨ps, qs, h⟩
    have hstarts : StartsWith ys (xs.drop ps.length) := by
      rw [startsWith_iff_isPrefix, ← h, List.append_assoc, List.drop_left]
      exact List.prefix_append ..
    obtain ⟨hle, hlt⟩ := firstOccurrence_le_of_startsWith hne hstarts
    exact Nat.lt_of_le_of_lt hle hlt

/-- **Before its first occurrence** a sequence is no part of the list. -/
theorem not_isInfix_take_firstOccurrence (hne : ys ≠ []) :
    ¬ ys <:+: xs.take (firstOccurrence ys xs) := by
  rintro ⟨ps, qs, h⟩
  have hsplit : xs = ps ++ (ys ++ (qs ++ xs.drop (firstOccurrence ys xs))) := by
    rw [← List.append_assoc, ← List.append_assoc, h, List.take_append_drop]
  have hlength := congrArg List.length h
  have hpos := List.length_pos_iff.mpr hne
  rw [List.length_append, List.length_append, List.length_take] at hlength
  have hbefore : ps.length < firstOccurrence ys xs := by omega
  refine not_startsWith_of_lt_firstOccurrence hbefore ?_
  rw [startsWith_iff_isPrefix, hsplit, List.drop_left]
  exact List.prefix_append ..

/-- **As far as two lists agree** they are the same. -/
theorem take_agreement (ys xs : List α) :
    ys.take (agreement ys xs) = xs.take (agreement ys xs) := by
  induction ys generalizing xs with
  | nil => rw [agreement_nil_left, List.take_zero, List.take_zero]
  | cons y ys ih =>
    rcases xs with _ | ⟨x, xs⟩
    · rfl
    · rw [agreement]
      split
      · next hxy => rw [List.take_succ_cons, List.take_succ_cons, ih, beq_iff_eq.mp hxy]
      · rw [List.take_zero, List.take_zero]

theorem agreement_append_append (zs ys xs : List α) :
    agreement (zs ++ ys) (zs ++ xs) = zs.length + agreement ys xs := by
  induction zs with
  | nil => rw [List.nil_append, List.nil_append, List.length_nil, Nat.zero_add]
  | cons z zs ih =>
    rw [List.cons_append, List.cons_append, agreement_cons_of_eq (beq_self_eq_true z), ih,
      List.length_cons, Nat.add_right_comm]

/-- **What does not start with a stretch** does not agree with all of it. -/
theorem agreement_append_lt (xs : List α) (h : ¬ zs <+: ys) :
    agreement ys (zs ++ xs) < zs.length := by
  by_contra hle
  have hstarts : zs <+: (zs ++ xs).take (agreement ys (zs ++ xs)) :=
    List.prefix_take_iff.mpr ⟨List.prefix_append zs xs, Nat.not_lt.mp hle⟩
  rw [← take_agreement] at hstarts
  exact h (hstarts.trans (List.take_prefix _ ys))

/-- **A sequence that stands at the end of a stretch** and nowhere else in it is found there. -/
theorem firstOccurrence_append_self {zs : List α} (xs : List α) (hne : ys ≠ [])
    (h : ∀ ps qs, zs ++ ys = ps ++ ys ++ qs → qs = []) :
    firstOccurrence ys (zs ++ ys ++ xs) = zs.length := by
  rw [List.append_assoc, firstOccurrence_append, firstOccurrence_of_startsWith, Nat.add_zero]
  · exact startsWith_iff_isPrefix.mpr (List.prefix_append ys xs)
  · intro j hj hs
    have hpos := List.length_pos_iff.mpr hne
    -- an occurrence from `j` on ends before the stretch does
    have hpre : ys <+: (zs ++ ys).drop j := by
      rw [startsWith_iff_isPrefix, ← List.append_assoc, List.drop_append_of_le_length
        (by rw [List.length_append]; omega)] at hs
      refine List.prefix_of_prefix_length_le hs (List.prefix_append ..) ?_
      rw [List.length_drop, List.length_append]
      omega
    obtain ⟨qs, hqs⟩ := hpre
    have hsplit : zs ++ ys = (zs ++ ys).take j ++ ys ++ qs := by
      rw [List.append_assoc, hqs, List.take_append_drop]
    have hlength := congrArg List.length hsplit
    rw [h _ _ hsplit, List.append_nil, List.length_append, List.length_append,
      List.length_take, List.length_append] at hlength
    omega

end Prefix

/-! ## On inputs -/

namespace Input

variable {C : Type} [Input C α] [LawfulInput C] {c : C} {k : Nat} {x : α} {xs : List α}

theorem get?_of_left_nil (h : left c k = []) : get? c (start c k) = none := by
  rw [get?_start_eq_head?, h, List.head?_nil]

theorem get?_of_left_cons (h : left c k = x :: xs) : get? c (start c k) = some x := by
  rw [get?_start_eq_head?, h, List.head?_cons]

omit [LawfulInput C] in
theorem left_succ (h : left c k = x :: xs) : left c (k + 1) = xs := by
  rw [← drop_left, h, List.drop_succ_cons, List.drop_zero]

/-- **A run** asks about the elements it accepts and the first it does not. -/
theorem runFrom_start (c : C) (p : Predicate α) (s : p.State) (k : Nat) :
    runFrom c p s (start c k) =
      ⟨(left c k).take (p.accepted s (left c k) + 1), start c (k + p.accepted s (left c k))⟩ := by
  generalize hleft : left c k = xs
  induction xs generalizing k s with
  | nil => rw [runFrom_of_none (get?_of_left_nil hleft)]; rfl
  | cons x xs ih =>
    have hget := get?_of_left_cons hleft
    cases hp : (p.test s x).1 with
    | true =>
      rw [runFrom_of_yes hget hp, next_start, ih _ _ (left_succ hleft),
        Predicate.accepted_cons_of_yes hp, Run.after, List.take_succ_cons]
      rw [Nat.add_assoc, Nat.add_comm 1]
    | false =>
      rw [runFrom_of_no hget hp, Predicate.accepted_cons_of_no hp]
      rfl

theorem run_ofFun_start (c : C) (q : α → Bool) (k : Nat) :
    (run c (.ofFun q) (start c k)).stop = start c (k + ((left c k).takeWhile q).length) := by
  rw [run, runFrom_start, Predicate.accepted_ofFun]

variable [BEq α]

theorem indexOf_start (c : C) (y : α) (k : Nat) :
    indexOf c y (start c k) = start c (k + ((left c k).takeWhile (· != y)).length) :=
  run_ofFun_start c _ k

/-- **A comparison** succeeds behind the last element looked for, fails at the end if all that is
left agrees, and otherwise at the first element that does not. -/
theorem matchFrom_start (c : C) (ys : List α) (k : Nat) :
    matchFrom c ys (start c k) =
      if StartsWith ys (left c k) then .ok (start c (k + ys.length))
      else .error (shortfall ys (left c k) fun j => start c (k + j)) := by
  induction ys generalizing k with
  | nil => rw [matchFrom, if_pos (startsWith_nil _), List.length_nil, Nat.add_zero]
  | cons y ys ih =>
    cases hleft : left c k with
    | nil =>
      have hsize : size c = start c k := (start_of_length_le (List.drop_eq_nil_iff.mp hleft)).symm
      simp [matchFrom, get?_of_left_nil hleft, not_startsWith_cons_nil, shortfall, hsize]
    | cons x xs =>
      rw [matchFrom, get?_of_left_cons hleft]
      cases hxy : x == y with
      | false => simp [startsWith_cons_cons, hxy, shortfall, agreement_cons_of_ne hxy]
      | true =>
        simp [startsWith_cons_cons, hxy, shortfall, agreement_cons_of_eq hxy, ih, left_succ hleft,
          Nat.add_assoc, Nat.add_comm 1]

omit [LawfulInput C] in
/-- The empty sequence is found nowhere. -/
@[simp] theorem matchFrom?_nil (c : C) (i : Index) : matchFrom? c ([] : List α) i = none := rfl

/-- **A sequence that is something** is found where what is left starts with it. -/
theorem matchFrom?_cons_start (c : C) (y : α) (ys : List α) (k : Nat) :
    matchFrom? c (y :: ys) (start c k) =
      if StartsWith (y :: ys) (left c k) then some (start c (k + (ys.length + 1))) else none := by
  rw [matchFrom?, matchFrom_start, List.isEmpty_cons, if_neg (by decide)]
  split <;> rfl

/-! ## A search, one element at a time -/

theorem searchFrom_of_left_nil {y : α} {ys : List α} (h : left c k = []) :
    searchFrom c y ys (start c k) = ⟨start c k, []⟩ := by
  have hindex : indexOf c y (start c k) = start c k := by rw [indexOf_start, h]; rfl
  have hend : size c ≤ start c k := by
    rw [start_of_length_le (List.drop_eq_nil_iff.mp h)]
    exact UInt64.le_refl _
  rw [searchFrom, hindex]
  exact if_pos hend

/-- An element that is not the first looked for is passed over. -/
theorem searchFrom_of_ne {y : α} {ys : List α} (h : left c k = x :: xs) (hxy : (x == y) = false) :
    searchFrom c y ys (start c k) = searchFrom c y ys (start c (k + 1)) := by
  have hindex : indexOf c y (start c k) = indexOf c y (start c (k + 1)) := by
    rw [indexOf_start, indexOf_start, left_succ h, h,
      List.takeWhile_cons_of_pos (by simp [bne, hxy]), List.length_cons, Nat.add_assoc,
      Nat.add_comm 1]
  rw [searchFrom, hindex, ← searchFrom]

/-- **An element that is the first looked for is a candidate.** -/
theorem searchFrom_of_eq {y : α} {ys : List α} (h : left c k = x :: xs) (hxy : (x == y) = true) :
    searchFrom c y ys (start c k) =
      if StartsWith (y :: ys) (x :: xs) then ⟨start c k, [.found (start c k)]⟩
      else (searchFrom c y ys (start c (k + 1))).after (start c k) := by
  have hindex : indexOf c y (start c k) = start c k := by
    rw [indexOf_start, h, List.takeWhile_cons_of_neg (by simp [bne, hxy])]
    rfl
  have hend : ¬ size c ≤ start c k :=
    UInt64.not_le.mpr (lt_size_of_get?_eq_some (get?_of_left_cons h))
  rw [searchFrom, hindex, matchFrom?_cons_start, h]
  simp only [if_neg hend, next_start]
  by_cases hs : StartsWith (y :: ys) (x :: xs)
  · simp only [if_pos hs, Option.isSome_some, if_true]
  · simp only [if_neg hs, Option.isSome_none, Bool.false_eq_true, if_false]

/-- **A search** stops at the first occurrence, having tried the false starts before it. -/
theorem searchFrom_start (c : C) (y : α) (ys : List α) (k : Nat) :
    searchFrom c y ys (start c k) =
      ⟨start c (k + firstOccurrence (y :: ys) (left c k)),
        (falseStarts y ys (left c k)).map (fun j => .rejected (start c (k + j))) ++
          if firstOccurrence (y :: ys) (left c k) < (left c k).length then
            [.found (start c (k + firstOccurrence (y :: ys) (left c k)))] else []⟩ := by
  generalize hleft : left c k = xs
  induction xs generalizing k with
  | nil => rw [searchFrom_of_left_nil hleft]; rfl
  | cons x xs ih =>
    have ih := ih (k + 1) (left_succ hleft)
    by_cases hs : StartsWith (y :: ys) (x :: xs)
    · have hxy := (startsWith_cons_cons.mp hs).1
      rw [searchFrom_of_eq hleft hxy, if_pos hs, falseStarts_of_startsWith hs, firstOccurrence,
        if_pos hs]
      rfl
    · have hadd : ∀ j, k + 1 + j = k + (j + 1) := fun j => by omega
      have hmap : ((falseStarts y ys xs).map (· + 1)).map
          (fun j => Event.rejected (start c (k + j))) =
            (falseStarts y ys xs).map (fun j => .rejected (start c (k + 1 + j))) := by
        rw [List.map_map]
        simp only [Function.comp_def, hadd]
      rw [falseStarts_cons hs, List.map_append, hmap, firstOccurrence, if_neg hs, ← hadd]
      simp only [List.length_cons, Nat.add_lt_add_iff_right]
      cases hxy : x == y with
      | false =>
        rw [searchFrom_of_ne hleft hxy, ih]
        rfl
      | true =>
        rw [searchFrom_of_eq hleft hxy, if_neg hs, ih]
        rfl

end Input

end ForwardCursor
