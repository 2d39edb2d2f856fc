/-!
# Predicate — a question that may remember what it was asked before

A predicate is put to elements one at a time, from left to right, and its answer may depend on all
that it was asked since the run began.  It is a machine with a hidden state: `test` answers for an
element and says which state to go on in.
-/

namespace ForwardCursor

/-- **A yes-or-no question with a memory.** -/
structure Predicate (α : Type) where
  /-- What it remembers. -/
  {State : Type}
  /-- What it remembers before the first question. -/
  start : State
  /-- The answer for an element, and what it remembers from then on. -/
  test : State → α → Bool × State

namespace Predicate

variable {α : Type}

/-- A question that remembers nothing. -/
def ofFun (p : α → Bool) : Predicate α where
  start := ()
  test _ x := (p x, ())

/-- Yes to the first `n` elements, whatever they are. -/
def times (n : Nat) : Predicate α where
  start := n
  test left _ := (left != 0, left - 1)

/-- Yes to an element that differs from the one before it, and to the first. -/
def changes [BEq α] : Predicate α where
  start := none
  test previous x := (previous.all (· != x), some x)

/-- **The answers in order**, one per element. -/
def answers (p : Predicate α) : p.State → List α → List Bool
  | _, [] => []
  | s, x :: xs => (p.test s x).1 :: p.answers (p.test s x).2 xs

theorem length_answers (p : Predicate α) :
    ∀ (s : p.State) (xs : List α), (p.answers s xs).length = xs.length
  | _, [] => rfl
  | s, x :: xs => congrArg (· + 1) (length_answers p (p.test s x).2 xs)

end Predicate

end ForwardCursor
