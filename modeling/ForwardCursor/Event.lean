import ForwardCursor.Index

/-!
# Event — how an expectation fails, and what a cursor reports on the way

A failed expectation has one of two causes, each with the index it was found at.  Events are the
running commentary: where a request was adjusted, where a search looked, which expectation failed.
`message` gives the wording of both.
-/

namespace ForwardCursor

/-- **Why an expectation fails.** -/
inductive Unmet where
  /-- The input ends where more was expected. -/
  | endOfInput (position : Index)
  /-- An element is not the expected one. -/
  | mismatch (position : Index)
  deriving Repr, DecidableEq

namespace Unmet

/-- The index of the failure. -/
def position : Unmet → Index
  | endOfInput i => i
  | mismatch i => i

/-- The failure in words. -/
def message : Unmet → String
  | endOfInput i => "unexpected end of input at " ++ i.toNat.repr
  | mismatch i => "unexpected element at " ++ i.toNat.repr

end Unmet

/-- **What a cursor reports.** -/
inductive Event where
  /-- A move to an index that is no boundary went to the last boundary before it. -/
  | clamped (requested clamped : Index)
  /-- A sequence to pass over is not there. -/
  | notMatched (position : Index)
  /-- A search stopped: the sequence starts here. -/
  | found (candidate : Index)
  /-- A search went on: only the first element of the sequence is here. -/
  | rejected (candidate : Index)
  /-- An element was expected at the end. -/
  | elementAtEnd (position : Index)
  /-- Another element was expected. -/
  | elementDiffers (position : Index)
  /-- A sequence was expected from here, and failed as told. -/
  | sequenceUnmet (position : Index) (cause : Unmet)
  /-- A member of a class was expected. -/
  | notMember (position : Index)
  deriving Repr, DecidableEq

/-- What an event is called. -/
def Event.message : Event → String
  | clamped .. => "position clamped"
  | notMatched _ => "collection not matched"
  | found _ => "collection found"
  | rejected _ => "candidate rejected"
  | elementAtEnd _ => "expected element, found end"
  | elementDiffers _ => "expected element, found mismatch"
  | sequenceUnmet .. => "expected collection"
  | notMember _ => "expected set member"

end ForwardCursor
