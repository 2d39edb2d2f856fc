import Mathlib.Data.List.Forall2
import Mathlib.Data.Option.Basic
import ForwardCursor.Proofs.Safety

/-!
# Proofs/Alike — the same thing said of other elements and other indices

Two requests, answers or events are *alike* if they differ only in their elements and indices, and
those are related: elements by a relation `E`, indices by a relation `R`.  Everything a move does on
a list depends on its elements through `==`, classes and predicates only, so alike moves on alike
lists pass the same number of elements (`Move.Alike.passed_eq`) and report alike events.
-/

namespace ForwardCursor

variable {α β : Type} {E : α → β → Prop} {R M : Index → Index → Prop}

/-! ## What is alike -/

/-- **Alike failures** have the same cause. -/
inductive Unmet.Alike (R : Index → Index → Prop) : Unmet → Unmet → Prop
  | endOfInput {i j : Index} : R i j → Alike R (.endOfInput i) (.endOfInput j)
  | mismatch {i j : Index} : R i j → Alike R (.mismatch i) (.mismatch j)

/-- **Alike events**; a move to an index is like no other. -/
inductive Event.Alike (R : Index → Index → Prop) : Event → Event → Prop
  | notMatched {i j : Index} : R i j → Alike R (.notMatched i) (.notMatched j)
  | found {i j : Index} : R i j → Alike R (.found i) (.found j)
  | rejected {i j : Index} : R i j → Alike R (.rejected i) (.rejected j)
  | elementAtEnd {i j : Index} : R i j → Alike R (.elementAtEnd i) (.elementAtEnd j)
  | elementDiffers {i j : Index} : R i j → Alike R (.elementDiffers i) (.elementDiffers j)
  | sequenceUnmet {i j : Index} {u v : Unmet} :
    R i j → u.Alike R v → Alike R (.sequenceUnmet i u) (.sequenceUnmet j v)
  | notMember {i j : Index} : R i j → Alike R (.notMember i) (.notMember j)

/-- **Alike predicates** give the same answers, whatever they remember. -/
def Predicate.Alike (E : α → β → Prop) (p : Predicate α) (q : Predicate β) : Prop :=
  ∃ S : p.State → q.State → Prop, S p.start q.start ∧ ∀ s t x y, S s t → E x y →
    (p.test s x).1 = (q.test t y).1 ∧ S (p.test s x).2 (q.test t y).2

/-- **Alike classes** accept alike elements. -/
def AlikeClass (E : α → β → Prop) (a : α → Bool) (b : β → Bool) : Prop :=
  ∀ x y, E x y → a x = b y

/-- **Alike moves.** -/
inductive Move.Alike (E : α → β → Prop) : Move α → Move β → Prop
  | count (n : Index) : Alike E (.count n) (.count n)
  | element {x : α} {y : β} : E x y → Alike E (.element x) (.element y)
  | sequence {xs : List α} {ys : List β} : List.Forall₂ E xs ys →
    Alike E (.sequence xs) (.sequence ys)
  | run {p : Predicate α} {q : Predicate β} : p.Alike E q → Alike E (.run p) (.run q)
  | members {a : α → Bool} {b : β → Bool} : AlikeClass E a b → Alike E (.members a) (.members b)
  | upTo {x : α} {y : β} : E x y → Alike E (.upTo x) (.upTo y)
  | through {x : α} {y : β} : E x y → Alike E (.through x) (.through y)
  | upToSequence {xs : List α} {ys : List β} : List.Forall₂ E xs ys →
    Alike E (.upToSequence xs) (.upToSequence ys)
  | upToMember {a : α → Bool} {b : β → Bool} : AlikeClass E a b →
    Alike E (.upToMember a) (.upToMember b)

/-- **Alike expectations.** -/
inductive Expectation.Alike (E : α → β → Prop) : Expectation α → Expectation β → Prop
  | element {x : α} {y : β} : E x y → Alike E (.element x) (.element y)
  | sequence {xs : List α} {ys : List β} : List.Forall₂ E xs ys →
    Alike E (.sequence xs) (.sequence ys)
  | members {a : α → Bool} {b : β → Bool} : AlikeClass E a b → Alike E (.members a) (.members b)

/-- **Alike requests**, the indices asked for being related by `M`. -/
inductive Request.Alike (E : α → β → Prop) (M : Index → Index → Prop) :
    Request α → Request β → Prop
  | position : Alike E M .position .position
  | size : Alike E M .size .size
  | atEnd : Alike E M .atEnd .atEnd
  | current : Alike E M .current .current
  | peek (n : Index) : Alike E M (.peek n) (.peek n)
  | ahead (n : Index) : Alike E M (.ahead n) (.ahead n)
  | rest : Alike E M .rest .rest
  | startsWith {xs : List α} {ys : List β} : List.Forall₂ E xs ys →
    Alike E M (.startsWith xs) (.startsWith ys)
  | mark : Alike E M .mark .mark
  | since {i j : Index} : M i j → Alike E M (.since ⟨i⟩) (.since ⟨j⟩)
  | describe : Alike E M .describe .describe
  | moveTo {i j : Index} : M i j → Alike E M (.moveTo i) (.moveTo j)
  | returnTo {i j : Index} : M i j → Alike E M (.returnTo ⟨i⟩) (.returnTo ⟨j⟩)
  | advance : Alike E M .advance .advance
  | skip {m : Move α} {n : Move β} : m.Alike E n → Alike E M (.skip m) (.skip n)
  | scan {m : Move α} {n : Move β} : m.Alike E n → Alike E M (.scan m) (.scan n)
  | scanOne : Alike E M .scanOne .scanOne
  | expect {e : Expectation α} {f : Expectation β} : e.Alike E f →
    Alike E M (.expect e) (.expect f)

/-- **Alike answers**: parts have alike elements, and the wording of descriptions is not compared.
-/
inductive Answer.Alike {C D : Type} [Input C α] [Input D β] (E : α → β → Prop)
    (R : Index → Index → Prop) : Answer C α → Answer D β → Prop
  | done : Alike E R .done .done
  | index {i j : Index} : R i j → Alike E R (.index i) (.index j)
  | mark {i j : Index} : R i j → Alike E R (.mark ⟨i⟩) (.mark ⟨j⟩)
  | flag (b : Bool) : Alike E R (.flag b) (.flag b)
  | element {x : Option α} {y : Option β} : Option.Rel E x y → Alike E R (.element x) (.element y)
  | span {s : C} {t : D} : List.Forall₂ E (Input.toList s) (Input.toList t) →
    Alike E R (.span s) (.span t)
  | text (s t : String) : Alike E R (.text s) (.text t)
  | foundElement {x : α} {y : β} : E x y →
    Alike E R (.expectedElement (.ok x)) (.expectedElement (.ok y))
  | missedElement {u v : Unmet} : u.Alike R v →
    Alike E R (.expectedElement (.error u)) (.expectedElement (.error v))
  | foundSpan {s : C} {t : D} : List.Forall₂ E (Input.toList s) (Input.toList t) →
    Alike E R (.expectedSpan (.ok s)) (.expectedSpan (.ok t))
  | missedSpan {u v : Unmet} : u.Alike R v →
    Alike E R (.expectedSpan (.error u)) (.expectedSpan (.error v))

/-- **Alike outcomes of a request** — alike answers, positions, questions put to a predicate and,
unless the request goes to an index, events. -/
structure Outcome.Alike {C D : Type} [Input C α] [Input D β] (E : α → β → Prop)
    (R : Index → Index → Prop) (r : Request α) (o : Outcome C α (Answer C α))
    (u : Outcome D β (Answer D β)) : Prop where
  /-- The answers are alike. -/
  value : o.value.Alike E R u.value
  /-- The positions are related. -/
  position : R o.cursor.position u.cursor.position
  /-- A predicate was asked about alike elements. -/
  asked : List.Forall₂ E o.asked u.asked
  /-- The events are alike. -/
  events : r.mayGoBack = false → List.Forall₂ (Event.Alike R) o.events u.events

/-! ## Everything is like itself -/

theorem forall₂_eq_refl (xs : List α) : List.Forall₂ (· = ·) xs xs :=
  List.forall₂_same.mpr fun _ _ => rfl

theorem Predicate.alike_refl (p : Predicate α) : p.Alike (· = ·) p := by
  refine ⟨Eq, rfl, ?_⟩
  rintro s _ x _ rfl rfl
  exact ⟨rfl, rfl⟩

theorem alikeClass_refl (a : α → Bool) : AlikeClass (· = ·) a a := fun _ _ h => congrArg a h

theorem Move.alike_refl : ∀ m : Move α, m.Alike (· = ·) m
  | .count n => .count n
  | .element _ => .element rfl
  | .sequence ys => .sequence (forall₂_eq_refl ys)
  | .run p => .run p.alike_refl
  | .members a => .members (alikeClass_refl a)
  | .upTo _ => .upTo rfl
  | .through _ => .through rfl
  | .upToSequence ys => .upToSequence (forall₂_eq_refl ys)
  | .upToMember a => .upToMember (alikeClass_refl a)

theorem Expectation.alike_refl : ∀ e : Expectation α, e.Alike (· = ·) e
  | .element _ => .element rfl
  | .sequence ys => .sequence (forall₂_eq_refl ys)
  | .members a => .members (alikeClass_refl a)

/-! ## Lists with alike elements -/

/-- **Equality is alike** for alike elements. -/
structure AlikeEq [BEq α] [BEq β] (E : α → β → Prop) : Prop where
  /-- Alike pairs are equal, or are not. -/
  beq {x y : α} {x' y' : β} : E x x' → E y y' → (x == y) = (x' == y')

theorem alikeEq_refl [BEq α] : AlikeEq (· = · : α → α → Prop) where
  beq := by
    rintro x y _ _ rfl rfl
    rfl

variable {xs ys : List α} {xs' ys' : List β}

theorem AlikeClass.not {a : α → Bool} {b : β → Bool} (h : AlikeClass E a b) :
    AlikeClass E (fun x => ! a x) (fun y => ! b y) :=
  fun x y hxy => congrArg Bool.not (h x y hxy)

section Classes

open Acceptor

/-- **Classes that list alike elements are alike**, however they are given. -/
theorem AlikeEq.accepts [BEq α] [BEq β] {S U : Type} [Acceptor S α] [Acceptor U β] {s : S} {u : U}
    (heq : AlikeEq E) (h : List.Forall₂ E xs xs') (hs : Lists s xs) (hu : Lists u xs') :
    AlikeClass E (Acceptor.accepts s) (Acceptor.accepts u) := by
  intro x y hxy
  rw [Bool.eq_iff_iff, hs x, hu y, ← List.any_eq_true, ← List.any_eq_true, ← Bool.eq_iff_iff]
  clear hs hu
  induction h with
  | nil => rfl
  | cons hhead _ ih => rw [List.any_cons, List.any_cons, heq.beq hhead hxy, ih]

/-- **Alike order** — one element is up to another where its like is. -/
def AlikeOrder [LE α] [LE β] (E : α → β → Prop) : Prop :=
  ∀ ⦃x y : α⦄ ⦃x' y' : β⦄, E x x' → E y y' → (x ≤ y ↔ x' ≤ y')

variable [LE α] [LE β] [DecidableLE α] [DecidableLE β] {a b : α} {a' b' : β}

/-- **Ranges with alike bounds are alike.** -/
theorem AlikeOrder.accepts_rcc (h : AlikeOrder E) (ha : E a a') (hb : E b b') :
    AlikeClass E (accepts (a ...= b)) (accepts (a' ...= b')) := by
  intro x y hxy
  rw [Bool.eq_iff_iff, accepts_rcc_iff, accepts_rcc_iff, h ha hxy, h hxy hb]

theorem AlikeOrder.accepts_rco [LT α] [LT β] [DecidableLT α] [DecidableLT β]
    [Std.IsLinearOrder α] [Std.IsLinearOrder β] [Std.LawfulOrderLT α] [Std.LawfulOrderLT β]
    (h : AlikeOrder E) (ha : E a a') (hb : E b b') :
    AlikeClass E (accepts (a ...< b)) (accepts (a' ...< b')) := by
  intro x y hxy
  rw [Bool.eq_iff_iff, accepts_rco_iff, accepts_rco_iff, h ha hxy, ← Std.not_le, ← Std.not_le,
    h hb hxy]

end Classes

theorem AlikeClass.length_takeWhile {a : α → Bool} {b : β → Bool} (h : AlikeClass E a b)
    (hx : List.Forall₂ E xs xs') : (xs.takeWhile a).length = (xs'.takeWhile b).length := by
  induction hx with
  | nil => rfl
  | cons hxy _ ih =>
    rw [List.takeWhile_cons, List.takeWhile_cons, h _ _ hxy]
    split
    · rw [List.length_cons, List.length_cons, ih]
    · rfl

/-- **Alike predicates accept as many elements.** -/
theorem accepted_eq_of_alike {p : Predicate α} {q : Predicate β} {S : p.State → q.State → Prop}
    (h : ∀ s t x y, S s t → E x y →
      (p.test s x).1 = (q.test t y).1 ∧ S (p.test s x).2 (q.test t y).2)
    {s : p.State} {t : q.State} (hs : S s t) (hx : List.Forall₂ E xs xs') :
    p.accepted s xs = q.accepted t xs' := by
  induction hx generalizing s t with
  | nil => rfl
  | @cons x x' _ _ hxy _ ih =>
    obtain ⟨hanswer, hstate⟩ := h s t x x' hs hxy
    cases hp : (p.test s x).1 with
    | true =>
      rw [Predicate.accepted_cons_of_yes hp, Predicate.accepted_cons_of_yes (hanswer ▸ hp),
        ih hstate]
    | false =>
      rw [Predicate.accepted_cons_of_no hp, Predicate.accepted_cons_of_no (hanswer ▸ hp)]

theorem isEmpty_eq_of_alike (hx : List.Forall₂ E xs xs') : xs.isEmpty = xs'.isEmpty := by
  rcases hx with _ | _
  · rfl
  · rfl

theorem getElem?_alike (hx : List.Forall₂ E xs xs') (j : Nat) :
    Option.Rel E xs[j]? xs'[j]? := by
  induction hx generalizing j with
  | nil => exact .none
  | cons hxy _ ih =>
    rcases j with _ | j
    · exact .some hxy
    · exact ih j

variable [BEq α] [BEq β] (heq : AlikeEq E)

include heq

theorem AlikeEq.class {y : α} {y' : β} (hy : E y y') : AlikeClass E (· == y) (· == y') :=
  fun _ _ hx => heq.beq hx hy

theorem AlikeEq.class_ne {y : α} {y' : β} (hy : E y y') : AlikeClass E (· != y) (· != y') :=
  (heq.class hy).not

theorem AlikeEq.any {y : α} {y' : β} {x : Option α} {x' : Option β} (hx : Option.Rel E x x')
    (hy : E y y') : x.any (· == y) = x'.any (· == y') := by
  rcases hx with hx | -
  · exact heq.beq hx hy
  · rfl

/-- **Alike changes**: an element differs from the one before it where its like does. -/
theorem AlikeEq.changes :
    (Predicate.changes : Predicate α).Alike E (Predicate.changes : Predicate β) := by
  refine ⟨Option.Rel E, .none, ?_⟩
  intro s t x y hs hxy
  refine ⟨?_, .some hxy⟩
  rcases hs with hs | -
  · exact congrArg Bool.not (heq.beq hs hxy)
  · rfl

/-- **Alike lists agree as far.** -/
theorem AlikeEq.agreement (hy : List.Forall₂ E ys ys') (hx : List.Forall₂ E xs xs') :
    agreement ys xs = agreement ys' xs' := by
  induction hy generalizing xs xs' with
  | nil => rw [agreement_nil_left, agreement_nil_left]
  | cons hyy _ ih =>
    rcases hx with _ | ⟨hxx, hx⟩
    · rfl
    · rw [ForwardCursor.agreement, ForwardCursor.agreement, heq.beq hxx hyy, ih hx]

theorem AlikeEq.startsWith (hy : List.Forall₂ E ys ys') (hx : List.Forall₂ E xs xs') :
    StartsWith ys xs ↔ StartsWith ys' xs' := by
  rw [StartsWith, StartsWith, heq.agreement hy hx, hy.length_eq]

theorem AlikeEq.shortfall (hy : List.Forall₂ E ys ys') (hx : List.Forall₂ E xs xs')
    {place place' : Nat → Index} (hplace : ∀ j, R (place j) (place' j)) :
    (shortfall ys xs place).Alike R (shortfall ys' xs' place') := by
  rw [ForwardCursor.shortfall, ForwardCursor.shortfall, heq.agreement hy hx, hx.length_eq]
  split
  · exact .endOfInput (hplace _)
  · exact .mismatch (hplace _)

theorem AlikeEq.firstOccurrence (hy : List.Forall₂ E ys ys') (hx : List.Forall₂ E xs xs') :
    firstOccurrence ys xs = firstOccurrence ys' xs' := by
  induction hx with
  | nil => rfl
  | cons hxx hx ih =>
    rw [ForwardCursor.firstOccurrence, ForwardCursor.firstOccurrence, ih]
    simp only [heq.startsWith hy (.cons hxx hx)]

theorem AlikeEq.falseStarts {y : α} {y' : β} (hyy : E y y') (hy : List.Forall₂ E ys ys')
    (hx : List.Forall₂ E xs xs') : falseStarts y ys xs = falseStarts y' ys' xs' := by
  rw [ForwardCursor.falseStarts, ForwardCursor.falseStarts, heq.firstOccurrence (.cons hyy hy) hx]
  exact List.filter_congr fun j _ => heq.any (getElem?_alike hx j) hyy

/-! ## Alike moves -/

namespace Move

variable {m : Move α} {n : Move β}

/-- **Alike moves pass as many elements.** -/
theorem Alike.passed_eq (h : m.Alike E n) (hx : List.Forall₂ E xs xs') :
    m.passed xs = n.passed xs' := by
  rcases h with n | hy | hy | ⟨S, hstart, hstep⟩ | ha | hy | hy | hy | ha
  · rw [passed, passed, hx.length_eq]
  · have hhead := getElem?_alike hx 0
    rw [← List.head?_eq_getElem?, ← List.head?_eq_getElem?] at hhead
    rw [passed, passed, heq.any hhead hy]
  · rw [passed, passed, hy.length_eq]
    simp only [heq.startsWith hy hx]
  · exact accepted_eq_of_alike hstep hstart hx
  · exact ha.length_takeWhile hx
  · exact (heq.class_ne hy).length_takeWhile hx
  · rw [passed, passed, (heq.class_ne hy).length_takeWhile hx, hx.length_eq]
  · exact heq.firstOccurrence hy hx
  · exact ha.not.length_takeWhile hx

omit heq [BEq α] [BEq β] in
/-- **…and ask about alike elements.** -/
theorem Alike.asked (h : m.Alike E n) (hx : List.Forall₂ E xs xs') :
    List.Forall₂ E (m.asked xs) (n.asked xs') := by
  rcases h with n | hy | hy | ⟨S, hstart, hstep⟩ | ha | hy | hy | hy | ha
  case run =>
    rw [Move.asked, Move.asked, accepted_eq_of_alike hstep hstart hx]
    exact List.forall₂_take _ hx
  all_goals exact .nil

/-- **…and report alike events.** -/
theorem Alike.events (h : m.Alike E n) (hx : List.Forall₂ E xs xs') {place place' : Nat → Index}
    (hplace : ∀ j, R (place j) (place' j)) :
    List.Forall₂ (Event.Alike R) (m.events place xs) (n.events place' xs') := by
  rcases h with n | hy | hy | ⟨S, hstart, hstep⟩ | ha | hy | hy | hy | ha
  case sequence =>
    rw [Move.events, Move.events, isEmpty_eq_of_alike hx, isEmpty_eq_of_alike hy]
    simp only [heq.startsWith hy hx]
    split
    · exact .nil
    · exact .cons (.notMatched (hplace 0)) .nil
  case upToSequence =>
    rcases hy with _ | ⟨hyy, hy⟩
    · exact .nil
    · rw [Move.events, Move.events, heq.falseStarts hyy hy hx,
        heq.firstOccurrence (.cons hyy hy) hx, hx.length_eq]
      refine List.rel_append ?_ ?_
      · rw [List.forall₂_map_left_iff, List.forall₂_map_right_iff, List.forall₂_same]
        exact fun j _ => .rejected (hplace j)
      · split
        · exact .cons (.found (hplace _)) .nil
        · exact .nil
  all_goals exact .nil

end Move

end ForwardCursor
