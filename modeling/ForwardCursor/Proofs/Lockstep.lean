import ForwardCursor.Proofs.Alike

/-!
# Proofs/Lockstep — two cursors that are asked the same

Two inputs are *parallel* if one holds, behind its first `p` elements, what the other holds, up to
alike elements and indices.  Cursors that have passed the same number of elements then give alike
outcomes to alike requests, and have again passed the same number (`Parallel.ask`); hence a run of
requests keeps them in lockstep (`Parallel.askAll`).
-/

namespace ForwardCursor

open Input

variable {α β C D : Type} [Input C α] [Input D β]

/-- **Runs in lockstep** — outcome by outcome, what two cursors make of a list of requests is
related. -/
inductive Lockstep {ρ : Type*} {σ τ : Type} (related : ρ → σ → τ → Prop) :
    List ρ → List σ → List τ → Prop
  /-- Runs of no requests. -/
  | nil : Lockstep related [] [] []
  /-- A request before a run. -/
  | cons {r : ρ} {o : σ} {u : τ} {rs : List ρ} {os : List σ} {us : List τ} :
    related r o u → Lockstep related rs os us → Lockstep related (r :: rs) (o :: os) (u :: us)

/-- **Parallel inputs** — behind the first `p` elements of `c` come the elements of `d`, at related
indices, and the last boundary before the indices asked for is the same in both. -/
structure Parallel [BEq α] [BEq β] (E : α → β → Prop) (R M : Index → Index → Prop) (c : C) (d : D)
    (p : Nat) : Prop where
  /-- There are `p` elements to pass. -/
  le_length : p ≤ (toList c).length
  /-- The elements behind them are alike. -/
  elements : List.Forall₂ E (left c p) (toList d)
  /-- Alike elements are equal alike. -/
  eq : AlikeEq E
  /-- Alike elements start at related indices. -/
  start (k : Nat) : R (start c (p + k)) (start d k)
  /-- As many elements end at or before the indices asked for. -/
  countUpTo {i j : Index} : M i j → countUpTo c i = p + countUpTo d j

namespace Parallel

variable [BEq α] [BEq β] {E : α → β → Prop} {R M : Index → Index → Prop} {c : C} {d : D} {p : Nat}

section

variable (h : Parallel E R M c d p)

include h

theorem length_eq : (toList c).length = p + (toList d).length := by
  rw [← h.elements.length_eq, length_left, Nat.add_sub_of_le h.le_length]

theorem left (k : Nat) : List.Forall₂ E (left c (p + k)) (left d k) := by
  rw [← drop_left]
  exact List.forall₂_drop k h.elements

theorem place (k : Nat) : ∀ j, R (Input.start c (p + k + j)) (Input.start d (k + j)) := fun j => by
  rw [Nat.add_assoc]
  exact h.start (k + j)

variable [LawfulInput C] [LawfulInput D]

theorem part {k l : Nat} (hkl : k ≤ l) :
    List.Forall₂ E (toList (part c (p + k) (p + l))) (toList (part d k l)) := by
  rw [toList_part c (Nat.add_le_add_left hkl p), toList_part d hkl, Nat.add_sub_add_left]
  exact List.forall₂_take _ (h.left k)

theorem size : R (size c) (size d) := by
  rw [← LawfulInput.start_length c, ← LawfulInput.start_length d, h.length_eq]
  exact h.start _

end

end Parallel

/-- **Outcomes of cursors abreast** — they are alike, and the cursors have passed the same number of
elements, the first `p` of `c` not counted. -/
structure Abreast (E : α → β → Prop) (R : Index → Index → Prop) (c : C) (d : D) (p : Nat)
    (r : Request α) (o : Outcome C α (Answer C α)) (u : Outcome D β (Answer D β)) (k : Nat) :
    Prop where
  /-- The first cursor has passed `p + k` elements. -/
  fst : o.cursor = Cursor.before c (p + k)
  /-- The second has passed `k`. -/
  snd : u.cursor = Cursor.before d k
  /-- The outcomes are alike. -/
  alike : Outcome.Alike E R r o u

namespace Parallel

open Cursor

variable [BEq α] [BEq β] {E : α → β → Prop} {R M : Index → Index → Prop} {c : C} {d : D} {p : Nat}
  (h : Parallel E R M c d p)

include h

section Answers

variable {r : Request α} {v : Answer C α} {w : Answer D β}

/-- **Alike answers on the spot** are abreast. -/
theorem answer (hv : v.Alike E R w) (k : Nat) :
    Abreast E R c d p r ((before c (p + k)).answer v) ((before d k).answer w) k :=
  ⟨rfl, rfl, hv, h.start k, .nil, fun _ => .nil⟩

/-- **Alike answers with one alike event** are abreast. -/
theorem report (hv : v.Alike E R w) {e e' : Event} (he : e.Alike R e') (k : Nat) :
    Abreast E R c d p r ⟨v, before c (p + k), [], [e]⟩ ⟨w, before d k, [], [e']⟩ k :=
  ⟨rfl, rfl, hv, h.start k, .nil, fun _ => .cons he .nil⟩

end Answers

variable [LawfulInput C] [LawfulInput D]

omit [LawfulInput C] [LawfulInput D] in
/-- **Alike moves keep cursors abreast**, whatever they answer. -/
theorem move {r : Request α} {m : Move α} {n : Move β} (hm : m.Alike E n) (k : Nat)
    {v : Answer C α} {w : Answer D β} (hv : v.Alike E R w) :
    Abreast E R c d p r
      ⟨v, before c (p + k + m.passed (Input.left c (p + k))), m.asked (Input.left c (p + k)),
        m.events (fun j => Input.start c (p + k + j)) (Input.left c (p + k))⟩
      ⟨w, before d (k + n.passed (Input.left d k)), n.asked (Input.left d k),
        n.events (fun j => Input.start d (k + j)) (Input.left d k)⟩
      (k + n.passed (Input.left d k)) := by
  have hleft := h.left k
  have hpassed := hm.passed_eq h.eq hleft
  refine ⟨?_, rfl, hv, ?_, hm.asked hleft, fun _ => hm.events h.eq hleft (h.place k)⟩
  · rw [hpassed, Nat.add_assoc]
  · rw [hpassed, Nat.add_assoc]
    exact h.start _

section Expect

variable (k : Nat)

theorem expect_element {x : α} {y : β} (hxy : E x y) :
    ∃ o u l, (before c (p + k)).ask (.expect (.element x)) = .ok o ∧
      (before d k).ask (.expect (.element y)) = .ok u ∧
      Abreast E R c d p (.expect (.element x)) o u l := by
  have hleft := h.left k
  rcases hc : Input.left c (p + k) with _ | ⟨z, zs⟩ <;>
    rcases hd : Input.left d k with _ | ⟨z', zs'⟩ <;> rw [hc, hd] at hleft
  · rw [ask, ask, expectElement_of_nil _ hc, expectElement_of_nil _ hd]
    exact ⟨_, _, k, rfl, rfl, h.report (.missedElement (.endOfInput (h.start k)))
      (.elementAtEnd (h.start k)) k⟩
  · cases hleft
  · cases hleft
  · obtain ⟨hz, -⟩ := List.forall₂_cons.mp hleft
    rw [ask, ask, expectElement_of_cons _ hc, expectElement_of_cons _ hd, h.eq.beq hz hxy]
    split
    · exact ⟨_, _, k + 1, rfl, rfl, h.answer (.foundElement hz) (k + 1)⟩
    · exact ⟨_, _, k, rfl, rfl, h.report (.missedElement (.mismatch (h.start k)))
        (.elementDiffers (h.start k)) k⟩

theorem expect_sequence {xs : List α} {ys : List β} (hxy : List.Forall₂ E xs ys) :
    ∃ o u l, (before c (p + k)).ask (.expect (.sequence xs)) = .ok o ∧
      (before d k).ask (.expect (.sequence ys)) = .ok u ∧
      Abreast E R c d p (.expect (.sequence xs)) o u l := by
  have hleft := h.left k
  have hcause := h.eq.shortfall hxy hleft (h.place k)
  simp only [Nat.add_assoc] at hcause
  rw [ask, ask, expectSequence_before, expectSequence_before, hxy.length_eq]
  simp only [h.eq.startsWith hxy hleft, Nat.add_assoc]
  split
  · exact ⟨_, _, _, rfl, rfl, h.answer (.foundSpan (h.part (Nat.le_add_right ..))) _⟩
  · exact ⟨_, _, k, rfl, rfl, h.report (.missedSpan hcause) (.sequenceUnmet (h.start k) hcause) k⟩

theorem expect_members {a : α → Bool} {b : β → Bool} (hab : AlikeClass E a b) :
    ∃ o u l, (before c (p + k)).ask (.expect (.members a)) = .ok o ∧
      (before d k).ask (.expect (.members b)) = .ok u ∧
      Abreast E R c d p (.expect (.members a)) o u l := by
  have hleft := h.left k
  rcases hc : Input.left c (p + k) with _ | ⟨z, zs⟩ <;>
    rcases hd : Input.left d k with _ | ⟨z', zs'⟩ <;> rw [hc, hd] at hleft
  · rw [ask, ask, expectMembers_of_nil _ hc, expectMembers_of_nil _ hd]
    exact ⟨_, _, k, rfl, rfl, h.answer (.missedSpan (.endOfInput (h.start k))) k⟩
  · cases hleft
  · cases hleft
  · obtain ⟨hz, -⟩ := List.forall₂_cons.mp hleft
    rw [ask, ask, expectMembers_of_cons _ hc, expectMembers_of_cons _ hd, hab _ _ hz,
      hab.length_takeWhile hleft, Nat.add_assoc]
    split
    · exact ⟨_, _, _, rfl, rfl, h.answer (.foundSpan (h.part (Nat.le_add_right ..))) _⟩
    · exact ⟨_, _, k, rfl, rfl, h.report (.missedSpan (.mismatch (h.start k)))
        (.notMember (h.start k)) k⟩

/-- **Alike expectations keep cursors abreast.** -/
theorem expect {e : Expectation α} {f : Expectation β} (he : e.Alike E f) :
    ∃ o u l, (before c (p + k)).ask (.expect e) = .ok o ∧ (before d k).ask (.expect f) = .ok u ∧
      Abreast E R c d p (.expect e) o u l := by
  rcases he with hxy | hxy | hab
  · exact h.expect_element k hxy
  · exact h.expect_sequence k hxy
  · exact h.expect_members k hab

end Expect

/-- **Going to indices asked for keeps cursors abreast**, but they may report it differently. -/
theorem moveTo {r : Request α} (hr : r.mayGoBack = true) {i j : Index} (hi : M i j) (k : Nat) :
    Abreast E R c d p r (((before c (p + k)).moveTo i).map fun _ => .done)
      (((before d k).moveTo j).map fun _ => .done) (Input.countUpTo d j) := by
  have hfst := cursor_moveTo_before c (p + k) i
  have hsnd := cursor_moveTo_before d k j
  rw [h.countUpTo hi] at hfst
  refine ⟨hfst, hsnd, .done, ?_, .nil, ?_⟩
  · rw [Outcome.cursor_map, Outcome.cursor_map, hfst, hsnd]
    exact h.start _
  · intro hback
    exact absurd (hback.symm.trans hr) Bool.false_ne_true

/-- **Alike requests keep cursors abreast.** -/
theorem ask {r : Request α} {s : Request β} (hr : r.Alike E M s) {k : Nat}
    (hk : k ≤ (toList d).length) :
    ∃ o u l, (before c (p + k)).ask r = .ok o ∧ (before d k).ask s = .ok u ∧
      Abreast E R c d p r o u l := by
  have hleft := h.left k
  have hend : p + k ≤ (toList c).length := by
    rw [h.length_eq]
    exact Nat.add_le_add_left hk p
  have helement : ∀ n : Nat, Option.Rel E (toList c)[p + k + n]? (toList d)[k + n]? := fun n => by
    have hn := getElem?_alike hleft n
    rwa [Input.left, Input.left, List.getElem?_drop, List.getElem?_drop] at hn
  have hcurrent : Option.Rel E (before c (p + k)).current? (before d k).current? := by
    rw [current?_before, current?_before, List.head?_eq_getElem?, List.head?_eq_getElem?]
    exact getElem?_alike hleft 0
  cases hr with
  | position => exact ⟨_, _, k, rfl, rfl, h.answer (.index (h.start k)) k⟩
  | size => exact ⟨_, _, k, rfl, rfl, h.answer (.index h.size) k⟩
  | atEnd =>
    have hempty : (before c (p + k)).atEnd = (before d k).atEnd := by
      rw [atEnd_before, atEnd_before, isEmpty_eq_of_alike hleft]
    rw [Cursor.ask, Cursor.ask, hempty]
    exact ⟨_, _, k, rfl, rfl, h.answer (.flag _) k⟩
  | current => exact ⟨_, _, k, rfl, rfl, h.answer (.element hcurrent) k⟩
  | peek n =>
    rw [Cursor.ask, Cursor.ask, peek?_before, peek?_before]
    exact ⟨_, _, k, rfl, rfl, h.answer (.element (helement _)) k⟩
  | ahead n =>
    rw [ask_ahead_before, ask_ahead_before, Nat.add_assoc]
    exact ⟨_, _, k, rfl, rfl, h.answer (.span (h.part (Nat.le_add_right ..))) k⟩
  | rest =>
    rw [ask_rest_before c hend, ask_rest_before d hk, h.length_eq]
    exact ⟨_, _, k, rfl, rfl, h.answer (.span (h.part hk)) k⟩
  | startsWith hy =>
    rw [Cursor.ask, Cursor.ask, startsWith_before, startsWith_before, isEmpty_eq_of_alike hy]
    simp only [h.eq.startsWith hy hleft]
    exact ⟨_, _, k, rfl, rfl, h.answer (.flag _) k⟩
  | mark => exact ⟨_, _, k, rfl, rfl, h.answer (.mark (h.start k)) k⟩
  | since hi =>
    rw [ask_since_before c hend, ask_since_before d hk, h.countUpTo hi, Nat.add_min_add_left]
    exact ⟨_, _, k, rfl, rfl, h.answer (.span (h.part (Nat.min_le_right ..))) k⟩
  | describe => exact ⟨_, _, k, rfl, rfl, h.answer (.text _ _) k⟩
  | moveTo hi => exact ⟨_, _, _, rfl, rfl, h.moveTo rfl hi k⟩
  | returnTo hi => exact ⟨_, _, _, rfl, rfl, h.moveTo rfl hi k⟩
  | advance =>
    rw [Cursor.ask, Cursor.ask, advance_before, advance_before, Nat.add_assoc]
    exact ⟨_, _, k + 1, rfl, rfl, h.answer .done (k + 1)⟩
  | skip hm =>
    rw [Cursor.ask, Cursor.ask, skip_before, skip_before]
    exact ⟨_, _, _, rfl, rfl, h.move hm k .done⟩
  | scan hm =>
    rw [ask_scan_before, ask_scan_before]
    refine ⟨_, _, _, rfl, rfl, h.move hm k (.span ?_)⟩
    rw [hm.passed_eq h.eq hleft, Nat.add_assoc]
    exact h.part (Nat.le_add_right ..)
  | scanOne =>
    rw [Cursor.ask, Cursor.ask, scanOne, scanOne, advance_before, advance_before, Nat.add_assoc]
    exact ⟨_, _, k + 1, rfl, rfl, h.answer (.element hcurrent) (k + 1)⟩
  | expect he => exact h.expect k he

/-- **Alike requests keep cursors in lockstep**, however many there are. -/
theorem askAll {rs : List (Request α)} {ss : List (Request β)}
    (hrs : List.Forall₂ (Request.Alike E M) rs ss) {k : Nat} (hk : k ≤ (toList d).length) :
    ∃ os us, (before c (p + k)).askAll rs = .ok os ∧ (before d k).askAll ss = .ok us ∧
      Lockstep (Outcome.Alike E R) rs os us := by
  induction hrs generalizing k with
  | nil => exact ⟨[], [], rfl, rfl, .nil⟩
  | cons hr _ ih =>
    obtain ⟨o, u, l, ho, hu, hfst, hsnd, halike⟩ := h.ask hr hk
    rw [← before_min_length d l] at hsnd
    have hmin : before c (p + l) = before c (p + min l (toList d).length) := by
      rw [← before_min_length c, h.length_eq, Nat.add_min_add_left]
    obtain ⟨os, us, hos, hus, hrun⟩ := ih (Nat.min_le_right l (toList d).length)
    rw [← hmin, ← hfst] at hos
    rw [← hsnd] at hus
    exact ⟨o :: os, u :: us, askAll_cons ho hos, askAll_cons hu hus, .cons halike hrun⟩

end Parallel

end ForwardCursor
