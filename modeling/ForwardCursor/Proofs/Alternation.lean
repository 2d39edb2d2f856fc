import ForwardCursor.Proofs.Safety
import Mathlib.Data.List.SplitBy

/-!
# Proofs/Alternation — members and others, scanned in turn, are the runs of the input

To scan the members of a class, then everything before a member, then members again, and so on to
the end, takes the input apart into its runs: the longest stretches of elements that are all members
or all not.  Each of the two scans stops where the other gets on, so the turns come to an end, and
nothing is scanned that is empty, but for the first members and the last others
(`everywhere_takesIntoRuns`).

Nothing is asked of the class.  One that accepts nothing, as a range does whose ends are in the
wrong order, leaves no members and one stretch of others; so does one that cannot hold what is
there.
-/

namespace ForwardCursor

variable {S C α : Type}

/-! ## Stretches of a list -/

section Stretches

variable (accepts : α → Bool)

/-- What is left of a list behind its members and the others that follow them. -/
def pastBoth (xs : List α) : List α := (xs.dropWhile accepts).dropWhile (! accepts ·)

variable {accepts} {xs : List α}

/-- **A turn gets on**, where there is something. -/
theorem length_pastBoth_lt (h : xs ≠ []) : (pastBoth accepts xs).length < xs.length := by
  have hle := (List.dropWhile_suffix accepts (l := xs)).length_le
  have hstop := of_mem_head?_dropWhile accepts xs
  rw [pastBoth]
  rcases hdrop : xs.dropWhile accepts with _ | ⟨y, ys⟩
  · exact List.length_pos_iff.mpr h
  · have hle' := (List.dropWhile_suffix (! accepts ·) (l := ys)).length_le
    rw [hdrop] at hle hstop
    rw [List.dropWhile_cons_of_pos (by simp [hstop y rfl])]
    exact Nat.lt_of_lt_of_le (Nat.lt_succ_of_le hle') hle

variable (accepts) in
/-- **The stretches of a list** — members and others in turn, one pair to a turn. -/
def stretches (xs : List α) : List (List α × List α) :=
  if _h : xs = [] then []
  else (xs.takeWhile accepts, (xs.dropWhile accepts).takeWhile (! accepts ·)) ::
    stretches (pastBoth accepts xs)
termination_by xs.length
decreasing_by exact length_pastBoth_lt _h

@[simp] theorem stretches_nil : stretches accepts [] = [] := by
  rw [stretches]
  exact dif_pos rfl

theorem stretches_of_ne_nil (h : xs ≠ []) : stretches accepts xs =
    (xs.takeWhile accepts, (xs.dropWhile accepts).takeWhile (! accepts ·)) ::
      stretches accepts (pastBoth accepts xs) := by
  rw [stretches]
  exact dif_neg h

theorem takeWhile_append_takeWhile_append_pastBoth (accepts : α → Bool) (xs : List α) :
    xs.takeWhile accepts ++
      ((xs.dropWhile accepts).takeWhile (! accepts ·) ++ pastBoth accepts xs) = xs := by
  rw [pastBoth, List.takeWhile_append_dropWhile, List.takeWhile_append_dropWhile]

/-- **A turn ends** at the end or before a member. -/
theorem accepts_of_mem_head?_pastBoth : ∀ x ∈ (pastBoth accepts xs).head?, accepts x = true := by
  intro x hx
  simpa using of_mem_head?_dropWhile (! accepts ·) (xs.dropWhile accepts) x hx

/-- **A turn without others** is the last. -/
theorem pastBoth_eq_nil (h : (xs.dropWhile accepts).takeWhile (! accepts ·) = []) :
    pastBoth accepts xs = [] := by
  have hstop := of_mem_head?_dropWhile accepts xs
  rw [pastBoth]
  rcases hdrop : xs.dropWhile accepts with _ | ⟨y, ys⟩
  · rfl
  · rw [hdrop] at h hstop
    rw [List.takeWhile_cons_of_pos (by simp [hstop y rfl])] at h
    cases h

theorem flatMap_append_stretches (accepts : α → Bool) (xs : List α) :
    ((stretches accepts xs).flatMap fun r => r.1 ++ r.2) = xs := by
  fun_induction stretches accepts xs with
  | case1 => rfl
  | case2 xs h ih =>
    rw [List.flatMap_cons, ih, List.append_assoc, takeWhile_append_takeWhile_append_pastBoth]

theorem accepts_of_mem_stretches {r : List α × List α} (hr : r ∈ stretches accepts xs) :
    (∀ x ∈ r.1, accepts x = true) ∧ ∀ x ∈ r.2, accepts x = false := by
  fun_induction stretches accepts xs with
  | case1 => cases hr
  | case2 xs h ih =>
    rcases List.mem_cons.mp hr with rfl | hr
    · exact ⟨fun x hx => List.mem_takeWhile_imp hx,
        fun x hx => by simpa using List.mem_takeWhile_imp hx⟩
    · exact ih hr

/-- **Where a list starts with a member**, every turn takes members. -/
theorem fst_ne_nil_of_mem_stretches (h : ∀ x ∈ xs.head?, accepts x = true) :
    ∀ r ∈ stretches accepts xs, r.1 ≠ [] := by
  fun_induction stretches accepts xs with
  | case1 => exact nofun
  | case2 xs hne ih =>
    refine List.forall_mem_cons.mpr ⟨?_, ih accepts_of_mem_head?_pastBoth⟩
    obtain ⟨x, xs, rfl⟩ := List.exists_cons_of_ne_nil hne
    rw [List.takeWhile_cons_of_pos (h x rfl)]
    exact List.cons_ne_nil _ _

theorem snd_ne_nil_of_mem_dropLast_stretches (accepts : α → Bool) (xs : List α) :
    ∀ r ∈ (stretches accepts xs).dropLast, r.2 ≠ [] := by
  fun_induction stretches accepts xs with
  | case1 => exact nofun
  | case2 xs hne ih =>
    rcases hrest : stretches accepts (pastBoth accepts xs) with _ | ⟨r, rs⟩
    · exact nofun
    · rw [hrest] at ih
      refine List.forall_mem_cons.mpr ⟨?_, ih⟩
      intro h
      rw [pastBoth_eq_nil h, stretches_nil] at hrest
      cases hrest

/-- **Elements that are all members or all not** are one run, or none if there are none. -/
theorem splitBy_of_alike {b : Bool} (h : ∀ x ∈ xs, accepts x = b) :
    xs.splitBy (fun x y => accepts x == accepts y) = [xs].filter (! ·.isEmpty) := by
  rcases eq_or_ne xs [] with rfl | hne
  · rfl
  · have hchain : xs.IsChain fun x y => (accepts x == accepts y) = true :=
      (List.pairwise_of_forall_mem_list fun x hx y hy => by
        rw [h x hx, h y hy, beq_self_eq_true]).isChain
    rw [List.splitBy_of_isChain hne hchain, List.filter_cons_of_pos (by simpa using hne),
      List.filter_nil]

/-- **The stretches that are not empty** are the runs. -/
theorem filter_stretches (accepts : α → Bool) (xs : List α) :
    ((stretches accepts xs).flatMap fun r => [r.1, r.2]).filter (! ·.isEmpty) =
      xs.splitBy fun x y => accepts x == accepts y := by
  fun_induction stretches accepts xs with
  | case1 => rfl
  | case2 xs h ih =>
    have hmembers : ∀ x ∈ xs.takeWhile accepts, accepts x = true :=
      fun x hx => List.mem_takeWhile_imp hx
    have hothers : ∀ x ∈ (xs.dropWhile accepts).takeWhile (! accepts ·), accepts x = false :=
      fun x hx => by simpa using List.mem_takeWhile_imp hx
    have hsplit : xs.splitBy (fun x y => accepts x == accepts y) =
        (xs.takeWhile accepts).splitBy (fun x y => accepts x == accepts y) ++
          (((xs.dropWhile accepts).takeWhile (! accepts ·)).splitBy
              (fun x y => accepts x == accepts y) ++
            (pastBoth accepts xs).splitBy fun x y => accepts x == accepts y) := by
      rw [← List.splitBy_append, ← List.splitBy_append, takeWhile_append_takeWhile_append_pastBoth]
      · intro x hx y hy
        rw [pastBoth, List.takeWhile_append_dropWhile] at hy
        rw [hmembers x (List.mem_of_mem_getLast? hx), of_mem_head?_dropWhile accepts xs y hy]
        rfl
      · intro x hx y hy
        rw [hothers x (List.mem_of_mem_getLast? hx), accepts_of_mem_head?_pastBoth y hy]
        rfl
    rw [hsplit, splitBy_of_alike hmembers, splitBy_of_alike hothers, ← ih, ← List.filter_append,
      ← List.filter_append, List.flatMap_cons]
    rfl

end Stretches

/-- **A list taken apart into the runs** of members and of others, in turn. -/
structure TakenIntoRuns (accepts : α → Bool) (xs : List α) (turns : List (List α × List α)) :
    Prop where
  /-- Put together, what is taken is the list. -/
  append : (turns.flatMap fun r => r.1 ++ r.2) = xs
  /-- The first of a turn are members… -/
  members : ∀ r ∈ turns, ∀ x ∈ r.1, accepts x = true
  /-- …and the second are not. -/
  others : ∀ r ∈ turns, ∀ x ∈ r.2, accepts x = false
  /-- There are members in every turn but the first… -/
  fst_ne_nil : ∀ r ∈ turns.tail, r.1 ≠ []
  /-- …and others in every turn but the last. -/
  snd_ne_nil : ∀ r ∈ turns.dropLast, r.2 ≠ []
  /-- What is not empty is the runs of elements that are alike in being members or not. -/
  runs : (turns.flatMap fun r => [r.1, r.2]).filter (! ·.isEmpty) =
    xs.splitBy fun x y => accepts x == accepts y

theorem takenIntoRuns_stretches (accepts : α → Bool) (xs : List α) :
    TakenIntoRuns accepts xs (stretches accepts xs) where
  append := flatMap_append_stretches accepts xs
  members _ hr := (accepts_of_mem_stretches hr).1
  others _ hr := (accepts_of_mem_stretches hr).2
  fst_ne_nil := by
    rcases eq_or_ne xs [] with rfl | hne
    · rw [stretches_nil]
      exact nofun
    · rw [stretches_of_ne_nil hne]
      exact fst_ne_nil_of_mem_stretches accepts_of_mem_head?_pastBoth
  snd_ne_nil := snd_ne_nil_of_mem_dropLast_stretches accepts xs
  runs := filter_stretches accepts xs

/-! ## Turns of a cursor -/

open Input

namespace Cursor

variable [Input C α] [BEq α] [Acceptor S α]

/-- **Turns to the end** — until the end is reached, the members of a class are scanned, then
everything before a member, which gives the parts of one turn. -/
inductive TakesTurns (s : S) : Cursor C → List (C × C) → Prop
  /-- At the end there are no more turns. -/
  | done {c : Cursor C} : c.atEnd = true → TakesTurns s c []
  /-- A turn before the others. -/
  | turn {c : Cursor C} {o u : Outcome C α C} {turns : List (C × C)} : c.atEnd = false →
    c.scan (.inClass s) = .ok o → o.cursor.scan (.upToClass s) = .ok u →
    TakesTurns s u.cursor turns → TakesTurns s c ((o.value, u.value) :: turns)

/-- **A cursor that takes what is left into runs** — its turns come to an end, and whatever parts
they give, those are the runs of members and others. -/
def TakesIntoRuns (c : Cursor C) (s : S) : Prop :=
  (∃ turns, TakesTurns s c turns) ∧ ∀ turns, TakesTurns s c turns → ∃ rest, c.rest = .ok rest ∧
    TakenIntoRuns (accepts s) (toList rest) (turns.map (Prod.map toList toList))

variable [LawfulInput C] {c : C} {k : Nat} {s : S}

/-- **What a scan gives** is what its move passes. -/
theorem of_scan_before {m : Move α} {o : Outcome C α C} (h : (before c k).scan m = .ok o) :
    toList o.value = (left c k).take (m.passed (left c k)) ∧
      o.cursor = before c (k + m.passed (left c k)) := by
  rw [scan_before, skip_before] at h
  rw [← Except.ok.inj h]
  exact ⟨toList_part_add c k _, rfl⟩

/-- **A turn** takes the members that are next and the others that follow them. -/
theorem turn_before {o u : Outcome C α C} (ho : (before c k).scan (.inClass s) = .ok o)
    (hu : o.cursor.scan (.upToClass s) = .ok u) :
    toList o.value = (left c k).takeWhile (accepts s) ∧
      toList u.value = ((left c k).dropWhile (accepts s)).takeWhile (! accepts s ·) ∧
      ∃ l, u.cursor = before c l ∧ left c l = pastBoth (accepts s) (left c k) := by
  have hmembers : ∀ xs : List α, Move.passed (.inClass s) xs = (xs.takeWhile (accepts s)).length :=
    fun _ => rfl
  have hothers : ∀ xs : List α,
      Move.passed (.upToClass s) xs = (xs.takeWhile (! accepts s ·)).length := fun _ => rfl
  obtain ⟨hvalue, hcursor⟩ := of_scan_before ho
  rw [hcursor] at hu
  obtain ⟨hvalue', hcursor'⟩ := of_scan_before hu
  rw [hmembers, take_length_takeWhile] at hvalue
  rw [hmembers, hothers, ← drop_left, drop_length_takeWhile] at hvalue' hcursor'
  rw [take_length_takeWhile] at hvalue'
  refine ⟨hvalue, hvalue', _, hcursor', ?_⟩
  rw [← drop_left, ← drop_left, drop_length_takeWhile, drop_length_takeWhile, pastBoth]

theorem map_toList_of_takesTurns {turns : List (C × C)} (h : TakesTurns s (before c k) turns) :
    turns.map (Prod.map toList toList) = stretches (accepts s) (left c k) := by
  generalize hcursor : before c k = cursor at h
  induction h generalizing k with
  | done hend =>
    rw [← hcursor, atEnd_before, List.isEmpty_iff] at hend
    rw [hend, stretches_nil]
    rfl
  | turn hend ho hu _ ih =>
    subst hcursor
    rw [atEnd_before, List.isEmpty_eq_false_iff] at hend
    obtain ⟨hmembers, hothers, l, hcursor, hleft⟩ := turn_before ho hu
    rw [stretches_of_ne_nil hend, ← hleft, ← ih hcursor.symm, ← hmembers, ← hothers]
    rfl

/-- **Turns come to an end**, because each gets on. -/
theorem exists_takesTurns (c : C) (k : Nat) (s : S) : ∃ turns, TakesTurns s (before c k) turns := by
  induction hn : (left c k).length using Nat.strongRecOn generalizing k with
  | ind n ih =>
    rcases hend : (before c k).atEnd with _ | _
    · have hne := hend
      rw [atEnd_before, List.isEmpty_eq_false_iff] at hne
      obtain ⟨o, ho⟩ : ∃ o, (before c k).scan (.inClass s) = .ok o := ⟨_, scan_before c k _⟩
      obtain ⟨u, hu⟩ : ∃ u, o.cursor.scan (.upToClass s) = .ok u := by
        rw [(of_scan_before ho).2]
        exact ⟨_, scan_before c _ _⟩
      obtain ⟨-, -, l, hcursor, hleft⟩ := turn_before ho hu
      have hlt : (pastBoth (accepts s) (left c k)).length < (left c k).length :=
        length_pastBoth_lt hne
      rw [← hleft, hn] at hlt
      obtain ⟨turns, hturns⟩ := ih _ hlt l rfl
      rw [← hcursor] at hturns
      exact ⟨_, .turn hend ho hu hturns⟩
    · exact ⟨[], .done hend⟩

theorem takesIntoRuns_before (hk : k ≤ (toList c).length) (s : S) :
    (before c k).TakesIntoRuns s := by
  refine ⟨exists_takesTurns c k s, ?_⟩
  intro turns hturns
  refine ⟨_, rest_before c hk, ?_⟩
  rw [map_toList_of_takesTurns hturns, toList_part_length hk]
  exact takenIntoRuns_stretches (accepts s) (left c k)

end Cursor

/-- **Members and others, scanned in turn, are the runs of the input.**  Wherever requests lead on a
sequence or a text, and whatever the class is, to scan its members and then what comes before the
next one comes to the end, and takes what is left apart into its runs. -/
theorem everywhere_takesIntoRuns :
    (∀ (α S : Type) [BEq α] [Acceptor S α] (d : Sequence α) (s : S),
      Cursor.Everywhere d fun c => c.TakesIntoRuns s) ∧
    (∀ (S : Type) [Acceptor S Char] (t : Text) (s : S),
      Cursor.Everywhere t fun c => c.TakesIntoRuns s) :=
  ⟨fun _ _ _ _ _ s => Cursor.everywhere_of_before fun _ hk => Cursor.takesIntoRuns_before hk s,
    fun _ _ _ s => Cursor.everywhere_of_before fun _ hk => Cursor.takesIntoRuns_before hk s⟩

end ForwardCursor
