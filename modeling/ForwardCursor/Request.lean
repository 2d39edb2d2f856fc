import ForwardCursor.Expect

/-!
# Request — everything that can be asked of a cursor, as data

A request names an operation with its arguments, an answer holds what the operation gave back, and
`ask` carries it out.  A run asks a list of requests, each of the cursor that the one before left
behind, so that a statement about every possible use of a cursor quantifies over a list.
-/

namespace ForwardCursor

/-- **An operation with its arguments.** -/
inductive Request (α : Type) where
  /-- Where the cursor is. -/
  | position
  /-- Where the input ends. -/
  | size
  /-- Whether every element has been passed. -/
  | atEnd
  /-- The next element. -/
  | current
  /-- The element some elements ahead. -/
  | peek (n : Index)
  /-- The next elements. -/
  | ahead (n : Index)
  /-- All that is left. -/
  | rest
  /-- Whether a sequence is next. -/
  | startsWith (ys : List α)
  /-- A mark at the position. -/
  | mark
  /-- What was passed since a mark. -/
  | since (m : Mark)
  /-- The cursor in words. -/
  | describe
  /-- Going to an index. -/
  | moveTo (i : Index)
  /-- Going back to a mark. -/
  | returnTo (m : Mark)
  /-- Passing one element. -/
  | advance
  /-- Making a move. -/
  | skip (m : Move α)
  /-- Making a move, and answering with what was passed. -/
  | scan (m : Move α)
  /-- Passing one element, and answering with it. -/
  | scanOne
  /-- Passing what has to be next. -/
  | expect (e : Expectation α)

/-- **What an operation gives back.** -/
inductive Answer (C α : Type) where
  /-- Nothing. -/
  | done
  /-- An index. -/
  | index (i : Index)
  /-- A mark. -/
  | mark (m : Mark)
  /-- Yes or no. -/
  | flag (b : Bool)
  /-- An element, if there is one. -/
  | element (x : Option α)
  /-- A part of the input. -/
  | span (s : C)
  /-- A description. -/
  | text (s : String)
  /-- The element that was expected. -/
  | expectedElement (r : Except Unmet α)
  /-- The part that was expected. -/
  | expectedSpan (r : Except Unmet C)

namespace Cursor

variable {C α : Type} [Input C α] [BEq α]

/-- **Carrying out a request.** -/
def ask (c : Cursor C) : Request α → Except BadSlice (Outcome C α (Answer C α))
  | .position => .ok (c.answer (.index c.position))
  | .size => .ok (c.answer (.index c.size))
  | .atEnd => .ok (c.answer (.flag c.atEnd))
  | .current => .ok (c.answer (.element c.current?))
  | .peek n => .ok (c.answer (.element (c.peek? n)))
  | .ahead n => (c.ahead n).map fun s => c.answer (.span s)
  | .rest => c.rest.map fun s => c.answer (.span s)
  | .startsWith ys => .ok (c.answer (.flag (c.startsWith ys)))
  | .mark => .ok (c.answer (.mark c.mark))
  | .since m => (c.since m).map fun s => c.answer (.span s)
  | .describe => .ok (c.answer (.text c.describe))
  | .moveTo i => .ok ((c.moveTo i).map fun _ => .done)
  | .returnTo m => .ok ((c.returnTo m).map fun _ => .done)
  | .advance => .ok (c.advance.answer .done)
  | .skip m => .ok ((c.skip m).map fun _ => .done)
  | .scan m => (c.scan m).map (·.map .span)
  | .scanOne => .ok (c.scanOne.map .element)
  | .expect (.element y) => .ok ((c.expectElement y).map .expectedElement)
  | .expect (.sequence ys) => (c.expectSequence ys).map (·.map .expectedSpan)
  | .expect (.members accepts) => (c.expectMembers accepts).map (·.map .expectedSpan)

/-- **Carrying out requests**, each on the cursor the one before left behind. -/
def askAll (c : Cursor C) :
    List (Request α) → Except BadSlice (List (Outcome C α (Answer C α)))
  | [] => .ok []
  | r :: rs =>
    match c.ask r with
    | .ok o => (o.cursor.askAll rs).map (o :: ·)
    | .error e => .error e

/-- **A run goes on** from the cursor its first request left behind. -/
theorem askAll_cons {c : Cursor C} {r : Request α} {rs : List (Request α)}
    {o : Outcome C α (Answer C α)} {os : List (Outcome C α (Answer C α))} (ho : c.ask r = .ok o)
    (hos : o.cursor.askAll rs = .ok os) : c.askAll (r :: rs) = .ok (o :: os) := by
  rw [askAll, ho]
  exact congrArg (Except.map (o :: ·)) hos

/-- The cursor after the outcomes of a run. -/
def afterAll (c : Cursor C) : List (Outcome C α (Answer C α)) → Cursor C
  | [] => c
  | o :: os => o.cursor.afterAll os

end Cursor

end ForwardCursor
