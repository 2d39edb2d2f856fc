import ForwardCursor.Acceptor
import ForwardCursor.Cursor

/-!
# Move — the ways to go forward

A move says how far to go, in terms of what is there: a number of elements, an element or a sequence
if it is next, a run of elements, or everything before the first element, sequence or member.  A
cursor either skips a move or scans it, and scanning is skipping with the passed part as the answer.

A move that does not apply goes nowhere; one that looks for what never occurs goes to the end.
-/

namespace ForwardCursor

/-- **How far to go.** -/
inductive Move (α : Type) where
  /-- A number of elements, or all that are left. -/
  | count (n : Index)
  /-- One element, if it is next. -/
  | element (y : α)
  /-- A sequence, if it is next; nothing for the empty one. -/
  | sequence (ys : List α)
  /-- The elements a predicate accepts in a row. -/
  | run (p : Predicate α)
  /-- The members of a class in a row. -/
  | members (accepts : α → Bool)
  /-- Everything before an element. -/
  | upTo (y : α)
  /-- Everything before an element, and the element. -/
  | through (y : α)
  /-- Everything before a sequence; nothing for the empty one. -/
  | upToSequence (ys : List α)
  /-- Everything before a member of a class. -/
  | upToMember (accepts : α → Bool)

namespace Move

variable {S α : Type}

/-- The members of an acceptor in a row. -/
def inClass [Acceptor S α] (s : S) : Move α := .members (accepts s)

/-- Everything before a member of an acceptor. -/
def upToClass [Acceptor S α] (s : S) : Move α := .upToMember (accepts s)

end Move

namespace Cursor

variable {C α : Type} [Input C α] [BEq α]

/-- Passing a run of elements. -/
def skipRun (c : Cursor C) (p : Predicate α) : Outcome C α Unit :=
  let r := Input.run c.input p c.position
  ⟨(), c.place r.stop, r.asked, []⟩

/-- Passing a sequence that is next; what is not there is reported, except at the end. -/
def skipSequence (c : Cursor C) (ys : List α) : Outcome C α Unit :=
  if c.atEnd then c.answer ()
  else match Input.matchFrom? c.input ys c.position with
    | some i => (c.place i).answer ()
    | none => ⟨(), c, [], [.notMatched c.position]⟩

/-- Passing everything before a sequence. -/
def skipUpToSequence (c : Cursor C) (ys : List α) : Outcome C α Unit :=
  let s := Input.search c.input ys c.position
  ⟨(), c.place s.stop, [], s.events⟩

/-- The cursor at the next element that equals `y`, or at the end. -/
def upTo (c : Cursor C) (y : α) : Cursor C := c.place (Input.indexOf c.input y c.position)

/-- The cursor past the elements that pass a test in a row. -/
def past (c : Cursor C) (test : α → Bool) : Cursor C :=
  c.place (Input.run c.input (.ofFun test) c.position).stop

/-- **Making a move.** -/
def skip (c : Cursor C) : Move α → Outcome C α Unit
  | .count n => (c.place (Input.forwardOrEnd c.input c.position n)).answer ()
  | .element y => (if c.current?.any (· == y) then c.advance else c).answer ()
  | .sequence ys => c.skipSequence ys
  | .run p => c.skipRun p
  | .members accepts => (c.past accepts).answer ()
  | .upTo y => (c.upTo y).answer ()
  | .through y => (c.upTo y).advance.answer ()
  | .upToSequence ys => c.skipUpToSequence ys
  | .upToMember accepts => (c.past (! accepts ·)).answer ()

/-- **Making a move, and answering with what was passed.** -/
def scan (c : Cursor C) (m : Move α) : Except BadSlice (Outcome C α C) :=
  let o := c.skip m
  (o.cursor.spanFrom c.position).map fun span => o.map fun _ => span

/-- Passing one element and answering with it. -/
def scanOne (c : Cursor C) : Outcome C α (Option α) := c.advance.answer c.current?

/-! ## A move stays on the input, and gets on -/

theorem scan_eq_ok_iff {c : Cursor C} {m : Move α} {o : Outcome C α C} :
    c.scan m = .ok o ↔ ∃ span, (c.skip m).cursor.spanFrom c.position = .ok span ∧
      o = (c.skip m).map fun _ => span := by
  cases hs : (c.skip m).cursor.spanFrom c.position with
  | error e => simp [scan, hs, Except.map]
  | ok span => simp [scan, hs, Except.map, eq_comm]

theorem cursor_of_scan {c : Cursor C} {m : Move α} {o : Outcome C α C} (h : c.scan m = .ok o) :
    o.cursor = (c.skip m).cursor := by
  obtain ⟨span, -, rfl⟩ := scan_eq_ok_iff.mp h
  rfl

@[simp] theorem input_skip (c : Cursor C) (m : Move α) : (c.skip m).cursor.input = c.input := by
  cases m with
  | element y =>
    change (if c.current?.any (· == y) then c.advance else c).input = c.input
    split
    · exact input_advance c
    · rfl
  | sequence ys =>
    change (c.skipSequence ys).cursor.input = c.input
    unfold skipSequence
    repeat' split
    all_goals rfl
  | through y => exact input_advance _
  | _ => rfl

theorem lt_position_skip_count {c : Cursor C} {n : Index} {x : α} (h : c.current? = some x)
    (hn : n ≠ 0) : c.position < (c.skip (.count n : Move α)).cursor.position :=
  Input.lt_forwardOrEnd (lt_size_of_current? h) hn

theorem lt_position_skip_run {c : Cursor C} {p : Predicate α} {x : α} (h : c.current? = some x)
    (hp : (p.test p.start x).1 = true) : c.position < (c.skip (.run p)).cursor.position :=
  Input.lt_stop_run_of_yes h hp

theorem lt_position_skip_members {c : Cursor C} {accepts : α → Bool} {x : α}
    (h : c.current? = some x) (hx : accepts x = true) :
    c.position < (c.skip (.members accepts)).cursor.position :=
  Input.lt_stop_run_of_yes h hx

theorem le_position_skip_members (c : Cursor C) (accepts : α → Bool) :
    c.position ≤ (c.skip (.members accepts)).cursor.position := Input.le_stop_run ..

theorem le_position_skip_upTo (c : Cursor C) (y : α) :
    c.position ≤ (c.skip (.upTo y)).cursor.position := Input.le_indexOf ..

theorem le_position_skip_upToSequence (c : Cursor C) (ys : List α) :
    c.position ≤ (c.skip (.upToSequence ys)).cursor.position := Input.le_stop_search ..

end Cursor

end ForwardCursor
