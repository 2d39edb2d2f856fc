import ForwardCursor.Input.Text
import ForwardCursor.Quoted

/-!
# Token — the words of a small C-like language

A token is a kind, a text and the part of the source it was read from.  The text leaves out what
only delimits: the quotes of a string, the marks of a comment and the blanks beside them.  `render`
writes one token to a line.
-/

namespace ForwardCursor

/-- **What a token is.** -/
inductive TokenKind where
  /-- A name. -/
  | word
  /-- A run of decimal digits. -/
  | number
  /-- A text between quotes. -/
  | string
  /-- Any other character. -/
  | punctuation
  /-- A comment, to the end of its line or to its closing mark. -/
  | comment
  deriving Repr, DecidableEq

/-- The name a kind goes by in a listing. -/
def TokenKind.name : TokenKind → String
  | word => "Ident"
  | number => "Number"
  | string => "Str"
  | punctuation => "Punct"
  | comment => "Comment"

/-- **A token**, read from the bytes `start` up to `stop`. -/
structure Token where
  /-- What it is. -/
  kind : TokenKind
  /-- What it says. -/
  text : String
  /-- Where it starts. -/
  start : Index
  /-- Where it stops. -/
  stop : Index
  deriving Repr, DecidableEq

namespace Token

variable [Character.Classes]

/-- **A token on a line**: its kind, its text between quotes, and where it was read. -/
def line (t : Token) : String :=
  t.kind.name ++ " " ++ Quoted.quote t.text ++ " " ++ t.start.toNat.repr ++ ".." ++
    t.stop.toNat.repr ++ "\n"

/-- **A listing of tokens**, one to a line. -/
def render (ts : List Token) : String := String.join (ts.map line)

@[simp] theorem render_nil : render [] = "" := String.join_nil

@[simp] theorem render_cons (t : Token) (ts : List Token) :
    render (t :: ts) = t.line ++ render ts :=
  String.join_cons

end Token

end ForwardCursor
