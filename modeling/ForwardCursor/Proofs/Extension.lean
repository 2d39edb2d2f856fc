import ForwardCursor.Proofs.Boundary.Sequence
import ForwardCursor.Proofs.Boundary.Text
import ForwardCursor.Proofs.Passage

/-!
# Proofs/Extension — an outcome that did not depend on the end stays the same with more input

Let an input be followed by another.  A move that stopped before the end of the first stops there
again, with the same questions and events, as long as it does not compare a whole sequence with what
is next; and an expected sequence that was found, or was not there because of another element, is
found or not there again (`settled_append`).  Only what failed for want of input can change.

For a search this says two things of the elements behind the old end: they make no occurrence before
the one that was found, because one that reached across the end would start behind it, and no
rejected candidate comes true, for the same reason (`firstOccurrence_append_of_lt`).
-/

namespace ForwardCursor

variable {α : Type}

/-! ## Lists with more behind them -/

section Append

variable {q : α → Bool} {xs : List α}

/-- **A run that stops** stops there with more behind it. -/
theorem takeWhile_append_of_lt (h : (xs.takeWhile q).length < xs.length) (ds : List α) :
    (xs ++ ds).takeWhile q = xs.takeWhile q := by
  rw [List.takeWhile_append, if_neg (Nat.ne_of_lt h)]

/-- **More behind a list** does not change the answers before it. -/
theorem Predicate.answers_isPrefix (p : Predicate α) (s : p.State) (xs ds : List α) :
    p.answers s xs <+: p.answers s (xs ++ ds) := by
  induction xs generalizing s with
  | nil => exact List.nil_prefix
  | cons x xs ih => exact List.cons_prefix_cons.mpr ⟨rfl, ih (p.test s x).2⟩

theorem Predicate.accepted_append_of_lt {p : Predicate α} {s : p.State}
    (h : p.accepted s xs < xs.length) (ds : List α) :
    p.accepted s (xs ++ ds) = p.accepted s xs := by
  obtain ⟨bs, hbs⟩ := p.answers_isPrefix s xs ds
  have hlt : ((p.answers s xs).takeWhile id).length < (p.answers s xs).length := by
    rwa [p.length_answers]
  rw [accepted, ← hbs, takeWhile_append_of_lt hlt, accepted]

variable [BEq α] {ys : List α}

/-- **Lists agree as far as before** with more behind the second, unless all of it agreed and more
was looked for. -/
theorem agreement_append (h : agreement ys xs = xs.length → ys.length ≤ xs.length)
    (ds : List α) : agreement ys (xs ++ ds) = agreement ys xs := by
  induction ys generalizing xs with
  | nil => rw [agreement_nil_left, agreement_nil_left]
  | cons y ys ih =>
    rcases xs with _ | ⟨x, xs⟩
    · exact absurd (h rfl) (Nat.not_succ_le_zero _)
    · cases hxy : x == y with
      | false => rw [List.cons_append, agreement_cons_of_ne hxy, agreement_cons_of_ne hxy]
      | true =>
        have htail : agreement ys xs = xs.length → ys.length ≤ xs.length := by
          intro hall
          rw [agreement_cons_of_eq hxy, hall] at h
          exact Nat.le_of_succ_le_succ (h rfl)
        rw [List.cons_append, agreement_cons_of_eq hxy, agreement_cons_of_eq hxy, ih htail]

/-- **What is not too long for a list** it starts with just if it does with more behind it. -/
theorem startsWith_append_iff (h : ys.length ≤ xs.length) (ds : List α) :
    StartsWith ys (xs ++ ds) ↔ StartsWith ys xs := by
  rw [StartsWith, StartsWith, agreement_append (fun _ => h)]

/-- **A sequence that was found** is first found at the same place with more behind the list. -/
theorem firstOccurrence_append_of_lt (h : firstOccurrence ys xs < xs.length) (ds : List α) :
    firstOccurrence ys (xs ++ ds) = firstOccurrence ys xs := by
  induction xs with
  | nil => exact absurd h (Nat.not_lt_zero _)
  | cons x xs ih =>
    -- the occurrence lies in the list, so that the sequence is not too long for it anywhere before
    have hdrop := (startsWith_drop_firstOccurrence h).length_le
    rw [List.length_drop] at hdrop
    have hle : ys.length ≤ (x :: xs).length := Nat.le_trans hdrop (Nat.sub_le ..)
    have hiff := startsWith_append_iff hle ds
    rw [List.cons_append] at hiff ⊢
    by_cases hs : StartsWith ys (x :: xs)
    · rw [firstOccurrence_of_startsWith hs, firstOccurrence_of_startsWith (hiff.mpr hs)]
    · rw [firstOccurrence, if_neg hs] at h
      rw [firstOccurrence, if_neg (mt hiff.mp hs), ih (Nat.lt_of_succ_lt_succ h), firstOccurrence,
        if_neg hs]

/-- **…with the same candidates before it.** -/
theorem falseStarts_append_of_lt {y : α} (h : firstOccurrence (y :: ys) xs < xs.length)
    (ds : List α) : falseStarts y ys (xs ++ ds) = falseStarts y ys xs := by
  rw [falseStarts, firstOccurrence_append_of_lt h, falseStarts]
  refine List.filter_congr ?_
  intro j hj
  rw [List.getElem?_append_left (Nat.lt_trans (List.mem_range.mp hj) h)]

end Append

/-! ## Moves with more behind them -/

namespace Move

variable [BEq α] {m : Move α} {xs : List α}

omit [BEq α] in
/-- Whether a move compares a whole sequence with what is next, and stays where it is if that
fails. -/
def comparesSequence : Move α → Bool
  | .sequence _ => true
  | _ => false

/-- **A move that stops** passes as many elements with more behind them. -/
theorem passed_append_of_lt (hm : m.comparesSequence = false) (h : m.passed xs < xs.length)
    (ds : List α) : m.passed (xs ++ ds) = m.passed xs := by
  cases m with
  | count n =>
    rw [passed] at h ⊢
    rw [passed, List.length_append]
    omega
  | element y =>
    obtain ⟨x, xs, rfl⟩ := List.exists_cons_of_length_pos (Nat.zero_lt_of_lt h)
    rfl
  | sequence ys => cases hm
  | run p => exact Predicate.accepted_append_of_lt h ds
  | members accepts => exact congrArg List.length (takeWhile_append_of_lt h ds)
  | upTo y => exact congrArg List.length (takeWhile_append_of_lt h ds)
  | through y =>
    rw [passed] at h
    rw [passed, takeWhile_append_of_lt (by omega), passed, List.length_append]
    omega
  | upToSequence ys => exact firstOccurrence_append_of_lt h ds
  | upToMember accepts => exact congrArg List.length (takeWhile_append_of_lt h ds)

/-- **…asks its predicate about the same elements…** -/
theorem asked_append_of_lt (h : m.passed xs < xs.length) (ds : List α) :
    m.asked (xs ++ ds) = m.asked xs := by
  cases m with
  | run p =>
    have hlt : p.accepted p.start xs < xs.length := h
    rw [asked, Predicate.accepted_append_of_lt hlt, asked, List.take_append_of_le_length hlt]
  | _ => rfl

/-- **…and reports the same.** -/
theorem events_append_of_lt (hm : m.comparesSequence = false) (h : m.passed xs < xs.length)
    (place : Nat → Index) (ds : List α) : m.events place (xs ++ ds) = m.events place xs := by
  cases m with
  | sequence ys => cases hm
  | upToSequence ys =>
    rcases ys with _ | ⟨y, ys⟩
    · rfl
    · have hlt : firstOccurrence (y :: ys) xs < xs.length := h
      have hlt' : firstOccurrence (y :: ys) xs < (xs ++ ds).length := by
        rw [List.length_append]
        omega
      rw [events, falseStarts_append_of_lt hlt, firstOccurrence_append_of_lt hlt, if_pos hlt',
        events, if_pos hlt]
  | _ => rfl

/-- **A move reports places** it passes or comes to, and no others. -/
theorem events_congr {place place' : Nat → Index} (h : ∀ j ≤ xs.length, place j = place' j) :
    m.events place xs = m.events place' xs := by
  cases m with
  | sequence ys => rw [events, events, h 0 (Nat.zero_le _)]
  | upToSequence ys =>
    rcases ys with _ | ⟨y, ys⟩
    · rfl
    · have hle := firstOccurrence_le_length (y :: ys) xs
      have hmap : (falseStarts y ys xs).map (fun j => Event.rejected (place j)) =
          (falseStarts y ys xs).map (fun j => Event.rejected (place' j)) := by
        refine List.map_congr_left ?_
        intro j hj
        have hlt := List.mem_range.mp (List.mem_filter.mp hj).1
        rw [h j (by omega)]
      rw [events, events, hmap, h _ hle]
  | _ => rfl

end Move

/-! ## Inputs with more behind them -/

namespace Input

variable {C : Type} [Input C α]

/-- **An input followed by more** — the elements of the first come first in the second, and start
where they did. -/
structure Extended (c e : C) : Prop where
  /-- The elements come first. -/
  elements : toList c <+: toList e
  /-- They start where they did. -/
  start {k : Nat} : k ≤ (toList c).length → start e k = start c k

namespace Extended

variable {c e : C} (h : Extended c e) {k : Nat} (hk : k ≤ (toList c).length)

include h hk

theorem exists_left : ∃ ds, left e k = left c k ++ ds := by
  obtain ⟨ds, hds⟩ := h.elements
  exact ⟨ds, by rw [left, ← hds, List.drop_append_of_le_length hk, left]⟩

theorem start_add {n : Nat} (hn : n ≤ (left c k).length) :
    Input.start e (k + n) = Input.start c (k + n) := by
  rw [length_left] at hn
  exact h.start (by omega)

variable [LawfulInput C]

/-- **A part of the first** is the same part of the second. -/
theorem part_eq {n : Nat} (hn : n ≤ (left c k).length) :
    part e k (k + n) = part c k (k + n) := by
  obtain ⟨ds, hds⟩ := h.exists_left hk
  refine LawfulInput.ext_toList ?_
  rw [toList_part_add, toList_part_add, hds, List.take_append_of_le_length hn]

end Extended

end Input

open Input

theorem Sequence.extended {s d e : Sequence α} (h : e.items = s.items ++ d.items) :
    Extended s e where
  elements := ⟨d.items.toList, by
    change s.items.toList ++ d.items.toList = e.items.toList
    rw [h, Array.toList_append]⟩
  start {k} hk := by
    have hsize : e.items.size = s.items.size + d.items.size := by rw [h, Array.size_append]
    have hle : k ≤ s.items.size := hk
    rw [← UInt64.toNat_inj, toNat_start_of_le hle, toNat_start_of_le (by omega)]

theorem Text.extended {t u e : Text} (h : e.string = t.string ++ u.string) : Extended t e := by
  have hlist := Text.toList_of_append h
  refine ⟨⟨_, hlist.symm⟩, fun {k} hk => ?_⟩
  have hwidth : e.width k = utf8Width ((toList e).take k) := rfl
  rw [start_eq_ofNat, start_eq_ofNat, hwidth, hlist, List.take_append_of_le_length hk]
  rfl

/-! ## Cursors with more behind their input -/

/-- **Outcomes that are the same**, on whatever input. -/
structure Outcome.Same {C β : Type} (o u : Outcome C α β) : Prop where
  /-- The answers are the same. -/
  value : u.value = o.value
  /-- So are the positions… -/
  position : u.cursor.position = o.cursor.position
  /-- …the elements a predicate was put to… -/
  asked : u.asked = o.asked
  /-- …and the events. -/
  events : u.events = o.events

namespace Cursor

variable {C : Type} [Input C α] [BEq α]

/-- **What is settled on an input, from an index on**, whatever is put behind it. -/
structure Settled (c e : C) (p : Index) : Prop where
  /-- A move that stops before the end… -/
  skip (m : Move α) : m.comparesSequence = false →
    ((Cursor.mk c p).skip m).cursor.position < Input.size c →
    ((Cursor.mk c p).skip m).Same ((Cursor.mk e p).skip m)
  /-- …and what is scanned by it. -/
  scan (m : Move α) : m.comparesSequence = false → ∃ o, (Cursor.mk c p).scan m = .ok o ∧
    (o.cursor.position < Input.size c → ∃ u, (Cursor.mk e p).scan m = .ok u ∧ o.Same u)
  /-- An expected sequence that is there, or is not there because of another element. -/
  expect (ys : List α) : ∃ o, (Cursor.mk c p).expectSequence ys = .ok o ∧
    ((∀ i, o.value ≠ .error (.endOfInput i)) →
      ∃ u, (Cursor.mk e p).expectSequence ys = .ok u ∧ o.Same u)

variable [LawfulInput C] {c e : C} {k : Nat}

/-- **A move that stops before the end** passes fewer elements than there are. -/
theorem passed_lt_of_position_lt {m : Move α} (hk : k ≤ (toList c).length)
    (hlt : ((before c k).skip m).cursor.position < Input.size c) :
    m.passed (left c k) < (left c k).length := by
  have hle := m.passed_le_length (left c k)
  rw [length_left] at hle ⊢
  rw [skip_before, position_before, ← UInt64.not_le, size_le_start_iff (by omega)] at hlt
  omega

section Extended

variable (h : Extended c e) (hk : k ≤ (toList c).length)

include h hk

/-- **A move that stops before the end** does the same with more behind it. -/
theorem same_skip {m : Move α} (hm : m.comparesSequence = false)
    (hlt : m.passed (left c k) < (left c k).length) :
    ((before c k).skip m).Same ((before e k).skip m) := by
  obtain ⟨ds, hds⟩ := h.exists_left hk
  have hplace : ∀ j ≤ (left c k).length, start e (k + j) = start c (k + j) :=
    fun j hj => h.start_add hk hj
  rw [skip_before, skip_before, hds, Move.passed_append_of_lt hm hlt, Move.asked_append_of_lt hlt,
    Move.events_append_of_lt hm hlt, Move.events_congr hplace]
  exact ⟨rfl, hplace _ (Nat.le_of_lt hlt), rfl, rfl⟩

/-- **…and scans the same part.** -/
theorem same_scan {m : Move α} (hm : m.comparesSequence = false)
    (hlt : m.passed (left c k) < (left c k).length) :
    ∃ u, (before e k).scan m = .ok u ∧ (((before c k).skip m).map
      fun _ => part c k (k + m.passed (left c k))).Same u := by
  obtain ⟨ds, hds⟩ := h.exists_left hk
  obtain ⟨-, hposition, hasked, hevents⟩ := same_skip h hk hm hlt
  refine ⟨_, scan_before e k m, ?_, hposition, hasked, hevents⟩
  rw [Outcome.value_map, Outcome.value_map, hds, Move.passed_append_of_lt hm hlt]
  exact h.part_eq hk (Nat.le_of_lt hlt)

/-- **An expected sequence that is there** is there with more behind it. -/
theorem same_expectSequence_of_startsWith {ys : List α} (hs : StartsWith ys (left c k)) :
    ∃ u, (before e k).expectSequence ys = .ok u ∧
      ((before c (k + ys.length)).answer (.ok (part c k (k + ys.length)))).Same u := by
  obtain ⟨ds, hds⟩ := h.exists_left hk
  have hstarts : StartsWith ys (left e k) := by
    rw [hds]
    exact (startsWith_append_iff hs.length_le ds).mpr hs
  refine ⟨_, expectSequence_before e ys k, ?_⟩
  rw [if_pos hstarts]
  exact ⟨congrArg Except.ok (h.part_eq hk hs.length_le),
    h.start_add hk hs.length_le, rfl, rfl⟩

/-- **An expected sequence that is not there** because of another element is not there with more
behind it, because of the same element. -/
theorem same_expectSequence_of_differs {ys : List α} (hs : ¬ StartsWith ys (left c k))
    (hlt : agreement ys (left c k) < (left c k).length) :
    ∃ u, (before e k).expectSequence ys = .ok u ∧
      Outcome.Same (⟨.error (.mismatch (start c (k + agreement ys (left c k)))), before c k, [],
        [.sequenceUnmet (start c k) (.mismatch (start c (k + agreement ys (left c k))))]⟩) u := by
  obtain ⟨ds, hds⟩ := h.exists_left hk
  have hagree : agreement ys (left e k) = agreement ys (left c k) := by
    rw [hds]
    exact agreement_append (fun hall => absurd hlt (Nat.lt_irrefl _ ∘ (hall ▸ ·))) ds
  have hstarts : ¬ StartsWith ys (left e k) := by rwa [StartsWith, hagree]
  have hne : agreement ys (left e k) ≠ (left e k).length := by
    rw [hagree, hds, List.length_append]
    omega
  have hcause : shortfall ys (left e k) (fun j => start e (k + j)) =
      .mismatch (start c (k + agreement ys (left c k))) := by
    rw [shortfall, if_neg hne, hagree, h.start_add hk (Nat.le_of_lt hlt)]
  refine ⟨_, expectSequence_before e ys k, ?_⟩
  rw [if_neg hstarts, hcause]
  exact ⟨rfl, h.start hk, rfl, by rw [h.start hk]⟩

/-- **What did not depend on the end** is settled. -/
theorem settled_of_extended : Settled c e (start c k) := by
  have hplace : Cursor.mk e (start c k) = before e k := congrArg (Cursor.mk e) (h.start hk).symm
  constructor
  case skip =>
    intro m hm hlt
    rw [hplace]
    exact same_skip h hk hm (passed_lt_of_position_lt hk hlt)
  case scan =>
    intro m hm
    refine ⟨_, scan_before c k m, fun hlt => ?_⟩
    rw [hplace]
    exact same_scan h hk hm (passed_lt_of_position_lt hk hlt)
  case expect =>
    intro ys
    refine ⟨_, expectSequence_before c ys k, ?_⟩
    rw [hplace]
    by_cases hs : StartsWith ys (left c k)
    · rw [if_pos hs]
      exact fun _ => same_expectSequence_of_startsWith h hk hs
    · rw [if_neg hs, shortfall]
      split
      · exact fun hcause => absurd rfl (hcause _)
      · next hne =>
        have hlt := Nat.lt_of_le_of_ne (agreement_le_right ys (left c k)) hne
        exact fun _ => same_expectSequence_of_differs h hk hs hlt

end Extended

end Cursor

/-- **What did not depend on the end is settled.**  From a valid index of a sequence or a text, a
move that stops before the end does the same, and scans the same, if more is put behind it; and so
does an expected sequence that is there, or is not there because of another element. -/
theorem settled_append :
    (∀ (α : Type) [BEq α] (s d e : Sequence α) (p : Index), e.items = s.items ++ d.items →
      p ≤ s.size → Cursor.Settled s e p) ∧
    (∀ (t u e : Text) (p : Index), e.string = t.string ++ u.string →
      t.isBoundary p = true → Cursor.Settled t e p) := by
  constructor
  · intro α _ s d e p he hp
    obtain ⟨k, hk, rfl⟩ := Sequence.boundary_of_le_size hp
    exact Cursor.settled_of_extended (Sequence.extended he) hk
  · intro t u e p he hp
    obtain ⟨k, hk, rfl⟩ := Text.boundary_of_isBoundary hp
    exact Cursor.settled_of_extended (Text.extended he) hk

/-- Behind the accent of `é**/y` the closing mark is found before the end, past a star that is not
the start of one, and found there with another mark behind the text; and behind one number of two,
what is settled stays so with a third. -/
theorem settled_append_found_mark :
    (Text.isBoundary ⟨"é**/y", by decide⟩ 2 = true ∧
      ((Cursor.mk (⟨"é**/y", by decide⟩ : Text) 2).skip
        (.upToSequence ['*', '/'])).cursor.position < 6 ∧
      ((Cursor.mk (⟨"é**/y", by decide⟩ : Text) 2).skip (.upToSequence ['*', '/'])).Same
        ((Cursor.mk (⟨"é**/y*/", by decide⟩ : Text) 2).skip (.upToSequence ['*', '/']))) ∧
    ((1 : Index) ≤ Sequence.size (⟨#[7, 8], by decide⟩ : Sequence Nat) ∧
      Cursor.Settled (⟨#[7, 8], by decide⟩ : Sequence Nat) ⟨#[7, 8, 9], by decide⟩ 1) := by
  have hboundary : Text.isBoundary ⟨"é**/y", by decide⟩ 2 = true := by decide +kernel
  have hlt : ((Cursor.mk (⟨"é**/y", by decide⟩ : Text) 2).skip
      (.upToSequence ['*', '/'])).cursor.position < 6 := by decide +kernel
  have hle : (1 : Index) ≤ Sequence.size (⟨#[7, 8], by decide⟩ : Sequence Nat) := by decide
  exact ⟨⟨hboundary, hlt,
      (settled_append.2 _ ⟨"*/", by decide⟩ _ 2 rfl hboundary).skip _ rfl hlt⟩,
    hle, settled_append.1 _ _ ⟨#[9], by decide⟩ _ _ rfl hle⟩

end ForwardCursor
