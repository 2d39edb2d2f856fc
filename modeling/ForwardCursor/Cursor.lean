import ForwardCursor.Occurrence

/-!
# Cursor — a place in an input, and what can be seen from it

A cursor is an input and an index into it.  It moves forward over elements and sees what lies ahead;
only `moveTo` and `returnTo` take it back, to the last boundary at or before the index they are
given.  A `Mark` keeps an index for later and is good on any input.

Taking a part of an input between two indices is the one thing that can go wrong: they have to be
boundaries, in order.  What takes a part answers in `Except BadSlice`, so that it is a theorem, not
a convention, that a cursor on a boundary never asks for a part that is not there.
-/

namespace ForwardCursor

/-- **A place in an input.** -/
structure Cursor (C : Type) where
  /-- What is walked over. -/
  input : C
  /-- Where the next element is read. -/
  position : Index

/-- **An index kept for later.** -/
structure Mark where
  /-- The index kept. -/
  position : Index
  deriving Repr, DecidableEq, Ord

/-- A part was asked for between indices that are no boundaries, or in the wrong order. -/
structure BadSlice where
  /-- Where the part was to start. -/
  lo : Index
  /-- Where it was to end. -/
  hi : Index
  deriving Repr, DecidableEq

/-- **What an operation leaves behind** — its answer and the cursor, and on the way the elements a
predicate was put to and the events reported. -/
structure Outcome (C α β : Type) where
  /-- The answer. -/
  value : β
  /-- The cursor afterwards. -/
  cursor : Cursor C
  /-- The elements a predicate was put to, in order. -/
  asked : List α
  /-- The events reported, in order. -/
  events : List Event

namespace Outcome

variable {C α β γ : Type}

/-- The same outcome with another answer. -/
def map (f : β → γ) (o : Outcome C α β) : Outcome C α γ := ⟨f o.value, o.cursor, o.asked, o.events⟩

@[simp] theorem value_map (f : β → γ) (o : Outcome C α β) : (o.map f).value = f o.value := rfl

@[simp] theorem cursor_map (f : β → γ) (o : Outcome C α β) : (o.map f).cursor = o.cursor := rfl

@[simp] theorem asked_map (f : β → γ) (o : Outcome C α β) : (o.map f).asked = o.asked := rfl

@[simp] theorem events_map (f : β → γ) (o : Outcome C α β) : (o.map f).events = o.events := rfl

end Outcome

namespace Cursor

variable {C α : Type} [Input C α]

/-- The cursor at the start of an input. -/
def ofInput (input : C) : Cursor C := ⟨input, 0⟩

/-- The cursor at another index of the same input. -/
def place (c : Cursor C) (i : Index) : Cursor C := ⟨c.input, i⟩

@[simp] theorem input_place (c : Cursor C) (i : Index) : (c.place i).input = c.input := rfl

@[simp] theorem position_place (c : Cursor C) (i : Index) : (c.place i).position = i := rfl

@[simp] theorem place_position (c : Cursor C) : c.place c.position = c := rfl

/-- One past the last element of the input. -/
def size (c : Cursor C) : Index := Input.size c.input

@[simp] theorem size_place (c : Cursor C) (i : Index) : (c.place i).size = c.size := rfl

/-- An outcome with no question put and nothing reported. -/
def answer {β : Type} (c : Cursor C) (value : β) : Outcome C α β := ⟨value, c, [], []⟩

/-! ## Seeing -/

/-- Whether every element has been passed. -/
def atEnd (c : Cursor C) : Bool := c.size ≤ c.position

/-- The element at the position; none at the end. -/
def current? (c : Cursor C) : Option α := Input.get? c.input c.position

/-- The element `n` elements ahead. -/
def peek? (c : Cursor C) (n : Index) : Option α :=
  (Input.forward? c.input c.position n c.size).bind (Input.get? c.input)

/-- Whether a sequence that is not empty starts at the position. -/
def startsWith [BEq α] (c : Cursor C) (ys : List α) : Bool :=
  (Input.matchFrom? c.input ys c.position).isSome

/-- The part of the input between two indices. -/
def slice (c : Cursor C) (lo hi : Index) : Except BadSlice C :=
  match Input.slice? c.input lo hi with
  | some span => .ok span
  | none => .error ⟨lo, hi⟩

/-- What was passed since the position was `start`. -/
def spanFrom (c : Cursor C) (start : Index) : Except BadSlice C := c.slice start c.position

/-- The next `n` elements, or as many as are left. -/
def ahead (c : Cursor C) (n : Index) : Except BadSlice C :=
  c.slice c.position (Input.forwardOrEnd c.input c.position n)

/-- All that is left. -/
def rest (c : Cursor C) : Except BadSlice C := c.slice c.position c.size

/-! ## Placing -/

/-- **Going to an index**, or to the last boundary before it, which is reported. -/
def moveTo (c : Cursor C) (i : Index) : Outcome C α Unit :=
  let floor := Input.floor c.input i
  ⟨(), c.place floor, [], if floor = i then [] else [.clamped i floor]⟩

/-- Passing one element; nothing happens at the end. -/
def advance (c : Cursor C) : Cursor C :=
  if c.atEnd then c else c.place (Input.next c.input c.position)

@[simp] theorem input_advance (c : Cursor C) : c.advance.input = c.input := by
  unfold advance
  split <;> rfl

theorem lt_size_of_current? {c : Cursor C} {x : α} (h : c.current? = some x) :
    c.position < c.size := Input.lt_size_of_get?_eq_some h

/-- Passing an element moves forward. -/
theorem lt_position_advance {c : Cursor C} {x : α} (h : c.current? = some x) :
    c.position < c.advance.position := by
  have hlt := lt_size_of_current? h
  have hend : c.atEnd = false := decide_eq_false (UInt64.not_le.mpr hlt)
  rw [advance, hend, if_neg (by decide)]
  exact Input.lt_next hlt

/-- The position, to come back to. -/
def mark (c : Cursor C) : Mark := ⟨c.position⟩

/-- Going back to a mark. -/
def returnTo (c : Cursor C) (m : Mark) : Outcome C α Unit := c.moveTo m.position

/-- What was passed since a mark; nothing if the mark lies ahead. -/
def since (c : Cursor C) (m : Mark) : Except BadSlice C :=
  c.spanFrom (Input.floor c.input (min m.position c.position))

/-! ## In words -/

/-- A cursor in words: where it is, and where its input ends. -/
def describe (c : Cursor C) : String :=
  "Scanner \x7b position: " ++ c.position.toNat.repr ++ ", end: " ++ c.size.toNat.repr ++ " \x7d"

end Cursor

/-- A mark in words. -/
def Mark.describe (m : Mark) : String := "Checkpoint(" ++ m.position.toNat.repr ++ ")"

end ForwardCursor
