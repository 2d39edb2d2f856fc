import ForwardCursor.Proofs.Search
import Mathlib.Data.Set.Basic

/-!
# Proofs/Candidate — what a search reports is the log of its candidates

A candidate is an index where the first element of the sequence is found.  A search goes from one to
the next, and reports each: as rejected, if the sequence does not stand there, or as found, and then
it stops.  So the indices it reports as rejected are the candidates between the position it started
from and the one it came to, all of them, in order, each once; the last report is where it found the
sequence, and there is no such report if it came to the end.  Whether and where the sequence stands
ahead can be told from the reports alone (`everywhere_logsCandidates`).

On lists the candidates are `falseStarts`; here they are read as indices.
-/

namespace ForwardCursor

/-- **Where an event says that a sequence was found.** -/
def Event.foundAt? : Event → Option Index
  | .found i => some i
  | _ => none

/-- **Rejections** do not say that a sequence was found. -/
theorem findSome?_foundAt?_rejected (is : List Index) (events : List Event) :
    (is.map Event.rejected ++ events).findSome? Event.foundAt? =
      events.findSome? Event.foundAt? := by
  induction is with
  | nil => rfl
  | cons i is ih => exact ih

open Input

variable {C α : Type} [Input C α] [BEq α]

/-- **A candidate** for a sequence that starts with `y` — an element that equals `y` is here. -/
def Input.Candidate (c : C) (y : α) (i : Index) : Prop := ∃ x, get? c i = some x ∧ (x == y) = true

/-- **An outcome that logs the candidates** of a search from a cursor for a sequence that starts
with `y` and goes on with `ys`. -/
structure Cursor.LogsCandidates {β : Type} (c : Cursor C) (y : α) (ys : List α)
    (o : Outcome C α β) : Prop where
  /-- The candidates on the way are reported as rejected, in order and each once, and then where the
  search stopped, unless it is the end. -/
  events_eq : ∃ rejected : List Index, rejected.Pairwise (· < ·) ∧
    (∀ i, i ∈ rejected ↔ c.position ≤ i ∧ i < o.cursor.position ∧ Candidate c.input y i) ∧
    o.events = rejected.map Event.rejected ++
      if o.cursor.position = c.size then [] else [.found o.cursor.position]
  /-- The events alone tell where the sequence is found, the first place ahead where it stands… -/
  foundAt?_eq_some_iff (i : Index) : o.events.findSome? Event.foundAt? = some i ↔
    IsLeast (placesFrom c.input (y :: ys) c.position) i
  /-- …and that it stands nowhere. -/
  foundAt?_eq_none_iff : o.events.findSome? Event.foundAt? = none ↔
    placesFrom c.input (y :: ys) c.position = ∅

variable [LawfulInput C] {c : C} {y : α} {ys : List α} {k : Nat}

/-! ## Candidates, counted in elements -/

namespace Input

theorem candidate_start_iff {j : Nat} :
    Candidate c y (start c (k + j)) ↔ (left c k)[j]?.any (· == y) = true := by
  rw [Candidate, get?_start, left, List.getElem?_drop, Option.any_eq_true]

/-- **The false starts** as indices: the candidates before the first occurrence. -/
def rejections (c : C) (y : α) (ys : List α) (k : Nat) : List Index :=
  (falseStarts y ys (left c k)).map fun j => start c (k + j)

omit [LawfulInput C] in
/-- A false start lies before the first occurrence, and so before the end. -/
theorem lt_of_mem_falseStarts {j : Nat} (h : j ∈ falseStarts y ys (left c k)) :
    j < firstOccurrence (y :: ys) (left c k) ∧ k + j < (toList c).length := by
  have hlt := List.mem_range.mp (List.mem_filter.mp h).1
  have hle := firstOccurrence_le_length (y :: ys) (left c k)
  rw [length_left] at hle
  omega

theorem pairwise_rejections : (rejections c y ys k).Pairwise (· < ·) := by
  rw [rejections, List.pairwise_map]
  refine (List.pairwise_lt_range.filter _).imp_of_mem ?_
  intro i j hi hj hij
  exact start_lt_start (lt_of_mem_falseStarts hi).2 (Nat.add_lt_add_left hij k)

/-- **The candidates from a start up to the first occurrence** are the false starts. -/
theorem mem_rejections_iff (hk : k ≤ (toList c).length) {i : Index} :
    i ∈ rejections c y ys k ↔ start c k ≤ i ∧
      i < start c (k + firstOccurrence (y :: ys) (left c k)) ∧ Candidate c y i := by
  have hfirst := firstOccurrence_le_length (y :: ys) (left c k)
  rw [length_left] at hfirst
  rw [rejections, List.mem_map]
  constructor
  · rintro ⟨j, hj, rfl⟩
    obtain ⟨hlt, hend⟩ := lt_of_mem_falseStarts hj
    exact ⟨start_le_start (Nat.le_add_right k j), start_lt_start hend (Nat.add_lt_add_left hlt k),
      candidate_start_iff.mpr (List.mem_filter.mp hj).2⟩
  · rintro ⟨hle, hlt, hcandidate⟩
    obtain ⟨x, hx, -⟩ := id hcandidate
    obtain ⟨l, rfl⟩ := LawfulInput.eq_start_of_get? hx
    rw [get?_start] at hx
    have hl := (List.getElem?_eq_some_iff.mp hx).1
    rw [start_le_start_iff hk (Nat.le_of_lt hl)] at hle
    rw [start_lt_start_iff (Nat.le_of_lt hl) (by omega)] at hlt
    obtain ⟨j, rfl⟩ := Nat.exists_eq_add_of_le hle
    exact ⟨j, List.mem_filter.mpr ⟨List.mem_range.mpr (Nat.lt_of_add_lt_add_left hlt),
      candidate_start_iff.mp hcandidate⟩, rfl⟩

/-! ## The first place -/

/-- **A search comes to the end** just if the sequence does not occur in what is left. -/
theorem start_firstOccurrence_eq_size_iff (hk : k ≤ (toList c).length) :
    start c (k + firstOccurrence (y :: ys) (left c k)) = size c ↔
      ¬ firstOccurrence (y :: ys) (left c k) < (left c k).length := by
  have hfirst := firstOccurrence_le_length (y :: ys) (left c k)
  rw [length_left] at hfirst ⊢
  rw [← LawfulInput.start_length, start_inj (by omega) (Nat.le_refl _)]
  omega

/-- **A sequence that occurs in what is left** stands first where it first occurs. -/
theorem isLeast_placesFrom_start (hk : k ≤ (toList c).length)
    (h : firstOccurrence (y :: ys) (left c k) < (left c k).length) :
    IsLeast (placesFrom c (y :: ys) (start c k))
      (start c (k + firstOccurrence (y :: ys) (left c k))) := by
  have hplace := (mem_placesFrom_start_iff hk).mpr
    ⟨_, Nat.le_of_lt h, rfl, startsWith_drop_firstOccurrence h⟩
  have hleast := Cursor.isLeast_skip_upToSequence hk (List.cons_ne_nil y ys) ⟨_, hplace⟩
  rwa [Cursor.position_skip_upToSequence_before] at hleast

/-- **A sequence that does not occur in what is left** stands nowhere ahead. -/
theorem placesFrom_start_eq_empty (hk : k ≤ (toList c).length)
    (h : ¬ firstOccurrence (y :: ys) (left c k) < (left c k).length) :
    placesFrom c (y :: ys) (start c k) = ∅ := by
  refine Set.eq_empty_of_forall_notMem ?_
  intro i hi
  obtain ⟨j, -, -, hstarts⟩ := (mem_placesFrom_start_iff hk).mp hi
  obtain ⟨hle, hlt⟩ := firstOccurrence_le_of_startsWith (List.cons_ne_nil y ys) hstarts
  exact h (Nat.lt_of_le_of_lt hle hlt)

end Input

/-! ## What is reported -/

section Reports

omit [LawfulInput C]

/-- **What a search reports**: the rejections, and the first occurrence if there is one. -/
theorem events_upToSequence (c : C) (y : α) (ys : List α) (k : Nat) :
    Move.events (.upToSequence (y :: ys)) (fun j => start c (k + j)) (left c k) =
      (rejections c y ys k).map Event.rejected ++
        if firstOccurrence (y :: ys) (left c k) < (left c k).length then
          [.found (start c (k + firstOccurrence (y :: ys) (left c k)))] else [] := by
  rw [Move.events, rejections, List.map_map]
  rfl

/-- **What can be told from the reports**: the first occurrence, if there is one. -/
theorem foundAt?_events_upToSequence (c : C) (y : α) (ys : List α) (k : Nat) :
    (Move.events (.upToSequence (y :: ys)) (fun j => start c (k + j)) (left c k)).findSome?
        Event.foundAt? =
      if firstOccurrence (y :: ys) (left c k) < (left c k).length then
        some (start c (k + firstOccurrence (y :: ys) (left c k))) else none := by
  rw [events_upToSequence, findSome?_foundAt?_rejected]
  split <;> rfl

end Reports

namespace Cursor

theorem logsCandidates_of_events {β : Type} {o : Outcome C α β} (hk : k ≤ (toList c).length)
    (hcursor : o.cursor = before c (k + firstOccurrence (y :: ys) (left c k)))
    (hevents : o.events =
      Move.events (.upToSequence (y :: ys)) (fun j => start c (k + j)) (left c k)) :
    (before c k).LogsCandidates y ys o := by
  have hposition : o.cursor.position = start c (k + firstOccurrence (y :: ys) (left c k)) :=
    congrArg Cursor.position hcursor
  constructor
  case events_eq =>
    refine ⟨_, pairwise_rejections, fun i => hposition ▸ mem_rejections_iff hk, ?_⟩
    rw [hevents, events_upToSequence, hposition, size_before]
    simp only [start_firstOccurrence_eq_size_iff hk, ite_not]
  case foundAt?_eq_some_iff =>
    intro i
    rw [hevents, foundAt?_events_upToSequence, input_before, position_before]
    split
    · next hlt =>
      have hleast := isLeast_placesFrom_start hk hlt
      constructor
      · intro h
        exact Option.some.inj h ▸ hleast
      · intro h
        exact congrArg some (UInt64.le_antisymm (hleast.2 h.1) (h.2 hleast.1))
    · next hlt =>
      rw [placesFrom_start_eq_empty hk hlt]
      exact iff_of_false nofun fun h => h.1
  case foundAt?_eq_none_iff =>
    rw [hevents, foundAt?_events_upToSequence, input_before, position_before]
    split
    · next hlt =>
      have hplaces := Set.nonempty_iff_ne_empty.mp ⟨_, (isLeast_placesFrom_start hk hlt).1⟩
      exact iff_of_false nofun hplaces
    · next hlt => exact iff_of_true rfl (placesFrom_start_eq_empty hk hlt)

/-- **Skipping and scanning up to a sequence** log its candidates. -/
theorem logsCandidates_before (hk : k ≤ (toList c).length) (y : α) (ys : List α) :
    (before c k).LogsCandidates y ys ((before c k).skip (.upToSequence (y :: ys))) ∧
      ∃ o, (before c k).scan (.upToSequence (y :: ys)) = .ok o ∧
        (before c k).LogsCandidates y ys o := by
  refine ⟨?_, _, scan_before c k _, ?_⟩
  · rw [skip_before]
    exact logsCandidates_of_events hk rfl rfl
  · rw [skip_before]
    exact logsCandidates_of_events hk rfl rfl

end Cursor

/-- **What a search reports is the log of its candidates.**  Wherever requests lead on a sequence of
elements, whatever it is for two of them to be equal, and wherever they lead on a text, looking for
a sequence that is not empty, by skipping or by scanning, reports the candidates it passes and the
one where it stops, and nothing else. -/
theorem everywhere_logsCandidates :
    (∀ (α : Type) [BEq α] (s : Sequence α) (y : α) (ys : List α), Cursor.Everywhere s fun c =>
      c.LogsCandidates y ys (c.skip (.upToSequence (y :: ys))) ∧
        ∃ o, c.scan (.upToSequence (y :: ys)) = .ok o ∧ c.LogsCandidates y ys o) ∧
    (∀ (t : Text) (y : Char) (ys : List Char), Cursor.Everywhere t fun c =>
      c.LogsCandidates y ys (c.skip (.upToSequence (y :: ys))) ∧
        ∃ o, c.scan (.upToSequence (y :: ys)) = .ok o ∧ c.LogsCandidates y ys o) :=
  ⟨fun _ _ _ y ys => Cursor.everywhere_of_before fun _ hk => Cursor.logsCandidates_before hk y ys,
    fun _ y ys => Cursor.everywhere_of_before fun _ hk => Cursor.logsCandidates_before hk y ys⟩

end ForwardCursor
