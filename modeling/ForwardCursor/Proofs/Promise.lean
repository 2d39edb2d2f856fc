import ForwardCursor.Contract
import ForwardCursor.Proofs.Safety

/-!
# Proofs/Promise — what a cursor over a text promises is kept

`Promised` says of each kind of probe what its answer has to be like, in terms of prefixes, parts
and occurrences, and `Kept` adds where the cursor may be afterwards.  Where this holds no test of
`Probe.check` fails; and it holds of every probe of a cursor on a boundary, which leaves the cursor
on a boundary, so that it holds along every run.
-/

namespace ForwardCursor

namespace Probe

open Cursor Input

/-! ## What is promised -/

/-- **An answer that is the part passed** between two cursors. -/
def Passed (c d : Cursor Text) (s : Text) : Prop := c.slice c.position d.position = .ok s

/-- **What is promised of the answer to a probe** that found the cursor `c` and left `d`. -/
def Promised (c d : Cursor Text) : Probe → Answer Text Char → Prop
  | moveTo _, v => v = .done
  | advance, v => v = .done
  | peek _, v => d = c ∧ ∃ x, v = .element x
  | ahead _, v => d = c ∧ ∃ s rest, v = .span s ∧ d.rest = .ok rest ∧ toList s <+: toList rest
  | sequence ys, v => ∃ s, v = .span s ∧ Passed c d s ∧ (s.string = "" ∨ s.string = ys)
  | upToSequence ys, v =>
    ∃ s, v = .span s ∧ Passed c d s ∧ (ys ≠ "" → ¬ ys.toList <:+: toList s)
  | expectSequence _, v => ∃ r, v = .expectedSpan r ∧ ∀ cause, r = .error cause → d = c
  | _, v => ∃ s, v = .span s ∧ Passed c d s

/-- **A probe that keeps what is promised.** -/
structure Kept (c : Cursor Text) (p : Probe) (o : Outcome Text Char (Answer Text Char)) :
    Prop where
  /-- The cursor is on the same text… -/
  input : o.cursor.input = c.input
  /-- …within it… -/
  within : o.cursor.position ≤ c.size
  /-- …at a boundary… -/
  boundary : c.input.isBoundary o.cursor.position = true
  /-- …and not further back, unless the probe may take it back. -/
  forward : p.mayGoBack = false → c.position ≤ o.cursor.position
  /-- The answer is what is promised. -/
  answer : Promised c o.cursor p o.value

/-- **A run of probes that keep what is promised**, and the position after each. -/
inductive KeptAll [Character.Classes] : Cursor Text → List Probe → List Index → Prop
  /-- A run of no probes. -/
  | nil {c : Cursor Text} : KeptAll c [] []
  /-- A probe before a run. -/
  | cons {c : Cursor Text} {p : Probe} {ps : List Probe} {is : List Index}
      {o : Outcome Text Char (Answer Text Char)} :
      c.ask p.request = .ok o → Kept c p o → KeptAll o.cursor ps is →
      KeptAll c (p :: ps) (o.cursor.position :: is)

/-! ## Where promises are kept, no test fails -/

theorem require_of {holds : Bool} {broken : Broken} (h : holds = true) :
    require holds broken = .ok () := if_pos h

/-- **Occurring somewhere** is being a part. -/
theorem occursIn_iff_isInfix {ys xs : List Char} : occursIn ys xs = true ↔ ys <:+: xs := by
  induction xs with
  | nil => rw [occursIn, List.isEmpty_iff, List.infix_nil]
  | cons x xs ih =>
    rw [occursIn, Bool.or_eq_true, List.isPrefixOf_iff_prefix, ih, List.infix_cons_iff]

variable {c d : Cursor Text} {p : Probe} {v : Answer Text Char}

theorem checkAnswer_of_promised (h : Promised c d p v) : checkAnswer c d p v = .ok () := by
  cases p with
  | peek n =>
    obtain ⟨rfl, x, rfl⟩ := h
    exact require_of (decide_eq_true rfl)
  | ahead n =>
    obtain ⟨rfl, s, rest, rfl, hrest, hprefix⟩ := h
    rw [checkAnswer, require_of (decide_eq_true rfl), hrest]
    exact require_of (List.isPrefixOf_iff_prefix.mpr hprefix)
  | sequence ys =>
    obtain ⟨s, rfl, -, hs⟩ := h
    refine require_of ?_
    rwa [Bool.or_eq_true, beq_iff_eq, beq_iff_eq]
  | upToSequence ys =>
    obtain ⟨s, rfl, -, hs⟩ := h
    refine require_of ?_
    rw [Bool.or_eq_true, beq_iff_eq, Bool.not_eq_true', ← Bool.not_eq_true, occursIn_iff_isInfix]
    exact or_iff_not_imp_left.mpr hs
  | expectSequence ys =>
    obtain ⟨r, rfl, hr⟩ := h
    cases r with
    | ok s => rfl
    | error cause => exact require_of (decide_eq_true (congrArg Cursor.position (hr cause rfl)))
  | _ => rfl

theorem checkSpan_of_passed {s : Text} (h : Passed c d s) :
    (do
      let passed ← part (c.slice c.position d.position)
      require (s.string = passed) .otherSpan) = .ok () := by
  have hslice : c.slice c.position d.position = .ok s := h
  rw [hslice]
  exact require_of (decide_eq_true rfl)

theorem checkSpan_of_promised (h : Promised c d p v) : checkSpan c d p v = .ok () := by
  cases p with
  | moveTo | advance =>
    obtain rfl := h
    rfl
  | peek n =>
    obtain ⟨-, x, rfl⟩ := h
    rfl
  | ahead n => rfl
  | expectSequence ys =>
    obtain ⟨r, rfl, -⟩ := h
    rfl
  | sequence | upToSequence =>
    obtain ⟨s, rfl, hs, -⟩ := h
    exact checkSpan_of_passed hs
  | _ =>
    obtain ⟨s, rfl, hs⟩ := h
    exact checkSpan_of_passed hs

/-- **A probe that keeps what is promised passes its tests.** -/
theorem check_of_kept [Character.Classes] {o : Outcome Text Char (Answer Text Char)}
    (ho : c.ask p.request = .ok o) (h : Kept c p o) : p.check c = .ok o.cursor := by
  have hback : (p.mayGoBack || decide (c.position ≤ o.cursor.position)) = true := by
    cases hp : p.mayGoBack with
    | true => rfl
    | false => exact decide_eq_true (h.forward hp)
  rw [check, ho]
  simp only [checkAnswer_of_promised h.answer, checkSpan_of_promised h.answer,
    require_of (decide_eq_true h.within), require_of h.boundary, require_of hback]
  rfl

theorem checkAll_of_keptAll [Character.Classes] {ps : List Probe} {is : List Index}
    (h : KeptAll c ps is) : checkAll c ps = .ok is := by
  induction h with
  | nil => rfl
  | cons ho hkept _ ih =>
    rw [checkAll, check_of_kept ho hkept]
    simp only [bind, Except.bind, ih]
    rfl

theorem KeptAll.length_eq [Character.Classes] {ps : List Probe} {is : List Index}
    (h : KeptAll c ps is) : is.length = ps.length := by
  induction h with
  | nil => rfl
  | cons _ _ _ ih => rw [List.length_cons, List.length_cons, ih]

/-! ## Promises are kept -/

/-- **Every scan answers with the part passed.** -/
theorem passed_scan_before (t : Text) (k n : Nat) :
    Passed (before t k) (before t (k + n)) (Input.part t k (k + n)) :=
  slice_start t (Nat.le_add_right k n)

/-- **A sequence that is passed** is the one to pass, if anything. -/
theorem string_part_sequence (t : Text) (k : Nat) (ys : String) :
    (Input.part t k (k + Move.passed (.sequence ys.toList) (left t k))).string = "" ∨
      (Input.part t k (k + Move.passed (.sequence ys.toList) (left t k))).string = ys := by
  have hlist : (Input.part t k (k + Move.passed (.sequence ys.toList) (left t k))).string.toList =
      (left t k).take (Move.passed (.sequence ys.toList) (left t k)) := toList_part_add t k _
  rw [← String.toList_inj, ← String.toList_inj, hlist, Move.passed]
  split
  · next h =>
    exact .inr (List.prefix_iff_eq_take.mp (startsWith_iff_isPrefix.mp h)).symm
  · exact .inl (List.take_zero ..)

/-- **What comes before a sequence** does not contain it. -/
theorem not_isInfix_part_upToSequence (t : Text) (k : Nat) {ys : String} (hne : ys ≠ "") :
    ¬ ys.toList <:+: toList (Input.part t k
      (k + Move.passed (.upToSequence ys.toList) (left t k))) := by
  rw [toList_part_add]
  exact not_isInfix_take_firstOccurrence fun h => hne (String.toList_eq_nil_iff.mp h)

variable [Character.Classes]

/-- **The answer to a probe of a cursor on a boundary** is what is promised. -/
theorem promised_before (t : Text) {k : Nat} (hk : k ≤ (toList t).length) {p : Probe}
    {o : Outcome Text Char (Answer Text Char)} (ho : (before t k).ask p.request = .ok o) :
    Promised (before t k) o.cursor p o.value := by
  cases p with
  | moveTo | advance =>
    cases ho
    rfl
  | peek n =>
    cases ho
    exact ⟨rfl, _, rfl⟩
  | ahead n =>
    rw [request, ask_ahead_before] at ho
    cases ho
    refine ⟨rfl, _, _, rfl, rest_before t hk, ?_⟩
    rw [toList_part_add, toList_part t hk, ← length_left, List.take_length]
    exact List.take_prefix ..
  | sequence ys =>
    rw [request, ask_scan_before] at ho
    cases ho
    exact ⟨_, rfl, passed_scan_before t k _, string_part_sequence t k ys⟩
  | upToSequence ys =>
    rw [request, ask_scan_before] at ho
    cases ho
    exact ⟨_, rfl, passed_scan_before t k _, not_isInfix_part_upToSequence t k⟩
  | expectSequence ys =>
    rw [request, ask, expectSequence_before] at ho
    cases ho
    split
    · refine ⟨_, rfl, ?_⟩
      intro cause hcause
      cases hcause
    · exact ⟨_, rfl, fun _ _ => rfl⟩
  | _ =>
    rw [request, ask_scan_before] at ho
    cases ho
    exact ⟨_, rfl, passed_scan_before t k _⟩

theorem mayGoBack_request (p : Probe) : p.request.mayGoBack = p.mayGoBack := by
  cases p <;> rfl

/-- **One probe of a cursor on a boundary** keeps what is promised, and ends on a boundary. -/
theorem kept_before (t : Text) {k : Nat} (hk : k ≤ (toList t).length) (p : Probe) :
    ∃ o, (before t k).ask p.request = .ok o ∧ Kept (before t k) p o ∧
      ∃ l ≤ (toList t).length, o.cursor = before t l := by
  obtain ⟨o, l, ho, hcursor, hback, -⟩ := ask_before t hk p.request
  refine ⟨o, ho, ⟨?_, ?_, ?_, ?_, promised_before t hk ho⟩, min l (toList t).length,
    Nat.min_le_right .., ?_⟩
  · rw [hcursor, input_before, input_before]
  · rw [hcursor]
    exact start_le_size t l
  · rw [hcursor]
    exact t.isBoundary_start l
  · intro hp
    rw [hcursor]
    exact start_le_start (hback ((mayGoBack_request p).trans hp))
  · rw [before_min_length, hcursor]

theorem exists_keptAll_before (t : Text) {k : Nat} (hk : k ≤ (toList t).length)
    (ps : List Probe) : ∃ is, KeptAll (before t k) ps is := by
  induction ps generalizing k with
  | nil => exact ⟨[], .nil⟩
  | cons p ps ih =>
    obtain ⟨o, ho, hkept, l, hl, hcursor⟩ := kept_before t hk p
    obtain ⟨is, his⟩ := ih hl
    exact ⟨_, .cons ho hkept (hcursor ▸ his)⟩

/-- **No test of what is promised fails.**  Probes of a cursor over a text, whatever they are and
however many, and whatever is taken for a letter and for a numeral, come to an end with one position
for each, and each probe keeps what is promised. -/
theorem checkAll_keepsPromises (t : Text) (ps : List Probe) :
    ∃ is, checkAll (.ofInput t) ps = .ok is ∧ is.length = ps.length ∧
      KeptAll (.ofInput t) ps is := by
  obtain ⟨is, his⟩ := exists_keptAll_before t (Nat.zero_le _) ps
  exact ⟨is, checkAll_of_keptAll his, his.length_eq, his⟩

end Probe

end ForwardCursor
