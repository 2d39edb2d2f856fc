import ForwardCursor.Character
import ForwardCursor.Request

/-!
# Contract — what a cursor over a text promises, checked while it runs

A probe is one use of a cursor over a text.  `check` carries it out and tests what is promised of
it: the cursor stays on a boundary within the text, only `moveTo` takes it back, seeing ahead leaves
it in place, a failed expectation too, and a scan answers with exactly the part it passed.  Every
promise has its own way to be broken, so a run that comes to an end kept them all.
-/

namespace ForwardCursor

/-- **One use of a cursor over a text.** -/
inductive Probe where
  /-- Going to an index. -/
  | moveTo (i : Index)
  /-- Passing one character. -/
  | advance
  /-- Scanning a number of characters. -/
  | count (n : UInt8)
  /-- Seeing the character some characters ahead. -/
  | peek (n : UInt8)
  /-- Seeing the next characters. -/
  | ahead (n : UInt8)
  /-- Scanning a character. -/
  | element (y : Char)
  /-- Scanning a string. -/
  | sequence (ys : String)
  /-- Scanning the characters of a string in a row. -/
  | members (set : String)
  /-- Scanning up to a character. -/
  | upTo (y : Char)
  /-- Scanning through a character. -/
  | through (y : Char)
  /-- Scanning up to a string. -/
  | upToSequence (ys : String)
  /-- Scanning up to a character of a string. -/
  | upToMember (set : String)
  /-- Scanning letters and numerals in a row. -/
  | lettersAndNumerals
  /-- Expecting a string. -/
  | expectSequence (ys : String)
  deriving Repr, DecidableEq

/-- **How a promise is broken.** -/
inductive Broken where
  /-- A part was taken that is not there. -/
  | badSlice (slice : BadSlice)
  /-- The cursor is past the end. -/
  | pastEnd
  /-- The cursor is inside a character. -/
  | insideCharacter
  /-- The cursor went back. -/
  | wentBack
  /-- The cursor moved, and should not have. -/
  | moved
  /-- What was seen ahead is not how the rest starts. -/
  | notAhead
  /-- A string was passed that is another one. -/
  | otherSequence
  /-- A search passed what it was looking for. -/
  | overlooked
  /-- The answer is not the part that was passed. -/
  | otherSpan
  deriving Repr, DecidableEq

namespace Probe

variable [Character.Classes]

/-- The request a probe makes. -/
def request : Probe → Request Char
  | moveTo i => .moveTo i
  | advance => .advance
  | count n => .scan (.count n.toUInt64)
  | peek n => .peek n.toUInt64
  | ahead n => .ahead n.toUInt64
  | element y => .scan (.element y)
  | sequence ys => .scan (.sequence ys.toList)
  | members set => .scan (.inClass set)
  | upTo y => .scan (.upTo y)
  | through y => .scan (.through y)
  | upToSequence ys => .scan (.upToSequence ys.toList)
  | upToMember set => .scan (.upToClass set)
  | lettersAndNumerals => .scan (.run (.ofFun Character.isLetterOrNumeral))
  | expectSequence ys => .expect (.sequence ys.toList)

/-- Whether a probe may take the cursor back. -/
def mayGoBack : Probe → Bool
  | moveTo _ => true
  | _ => false

/-- Asking for what has to hold. -/
def require (holds : Bool) (broken : Broken) : Except Broken Unit :=
  if holds then .ok () else .error broken

/-- Whether `ys` occurs somewhere in a list of characters. -/
def occursIn (ys : List Char) : List Char → Bool
  | [] => ys.isEmpty
  | x :: xs => ys.isPrefixOf (x :: xs) || occursIn ys xs

/-- A part of the text, as a string. -/
def part (r : Except BadSlice Text) : Except Broken String :=
  match r with
  | .ok t => .ok t.string
  | .error e => .error (.badSlice e)

/-- What is promised of one probe and its answer, besides where the cursor may be. -/
def checkAnswer (c d : Cursor Text) : Probe → Answer Text Char → Except Broken Unit
  | peek _, _ => require (d.position = c.position) .moved
  | ahead _, .span s => do
    require (d.position = c.position) .moved
    let rest ← part d.rest
    require (s.string.toList.isPrefixOf rest.toList) .notAhead
  | sequence ys, .span s => require (s.string == "" || s.string == ys) .otherSequence
  | upToSequence ys, .span s =>
    require (ys == "" || !occursIn ys.toList s.string.toList) .overlooked
  | expectSequence _, .expectedSpan (.error _) => require (d.position = c.position) .moved
  | _, _ => .ok ()

/-- What is promised of every scan: its answer is the part it passed. -/
def checkSpan (c d : Cursor Text) : Probe → Answer Text Char → Except Broken Unit
  | ahead _, _ => .ok ()
  | _, .span s => do
    let passed ← part (c.slice c.position d.position)
    require (s.string = passed) .otherSpan
  | _, _ => .ok ()

/-- **Making a probe and testing what is promised of it.** -/
def check (p : Probe) (c : Cursor Text) : Except Broken (Cursor Text) :=
  match c.ask p.request with
  | .error e => .error (.badSlice e)
  | .ok o => do
    checkAnswer c o.cursor p o.value
    require (o.cursor.position ≤ c.size) .pastEnd
    require (c.input.isBoundary o.cursor.position) .insideCharacter
    require (p.mayGoBack || c.position ≤ o.cursor.position) .wentBack
    checkSpan c o.cursor p o.value
    return o.cursor

/-- **Making probes one after the other** — the position after each, or the first broken promise. -/
def checkAll (c : Cursor Text) : List Probe → Except Broken (List Index)
  | [] => .ok []
  | p :: ps => do
    let d ← p.check c
    let positions ← checkAll d ps
    return d.position :: positions

end Probe

end ForwardCursor
