import ForwardCursor.Contract
import ForwardCursor.Token.Lexer
import ForwardCursor.Proofs.Boundary
import ForwardCursor.Proofs.Boundary.Sequence
import ForwardCursor.Proofs.Boundary.Text
import ForwardCursor.Proofs.Passage
import ForwardCursor.Proofs.Safety
import ForwardCursor.Proofs.Extension
import ForwardCursor.Proofs.Lossless
import ForwardCursor.Proofs.Search
import ForwardCursor.Proofs.Promise
import ForwardCursor.Proofs.Alike
import ForwardCursor.Proofs.Lockstep
import ForwardCursor.Proofs.Suffix
import ForwardCursor.Proofs.Characters
import ForwardCursor.Proofs.Utf8
import ForwardCursor.Proofs.Bytes
import ForwardCursor.Proofs.Lexeme
import ForwardCursor.Proofs.Grammar
import ForwardCursor.Proofs.Piece
import ForwardCursor.Proofs.Splice
import ForwardCursor.Proofs.Repair
import ForwardCursor.Proofs.Layout
import ForwardCursor.Proofs.Return
import ForwardCursor.Proofs.Coherence
import ForwardCursor.Proofs.Verdict
import ForwardCursor.Proofs.Counting
import ForwardCursor.Proofs.Candidate
import ForwardCursor.Proofs.Checked
import ForwardCursor.Proofs.Singleton
import ForwardCursor.Proofs.Questioning
import ForwardCursor.Proofs.Alternation
import ForwardCursor.Proofs.Unambiguous
import ForwardCursor.Proofs.Ascii
import ForwardCursor.Proofs.Motion
import ForwardCursor.Proofs.Floor
import ForwardCursor.Proofs.Trimming
