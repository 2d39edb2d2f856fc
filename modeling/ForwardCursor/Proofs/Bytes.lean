import ForwardCursor.Proofs.Boundary.Sequence
import ForwardCursor.Proofs.Lockstep
import ForwardCursor.Proofs.Utf8

/-!
# Proofs/Bytes — a text is the sequence of the bytes it is encoded in

What is asked about characters word for word — whether some are next, to pass them, to go up to
them, to expect them — can be asked about the bytes they are encoded in.  A cursor on a text and a
cursor at the same index of its bytes then stay at the same index, and the parts they find are a
text and its bytes.  A failed comparison may get further in bytes than in characters, but not to the
next character.
-/

namespace ForwardCursor

/-! ## What is asked word for word -/

/-- **A move that says which characters.** -/
inductive LiteralMove where
  /-- Characters, if they are next. -/
  | sequence (us : List Char)
  /-- Everything before characters. -/
  | upToSequence (us : List Char)
  /-- One character, if it is next. -/
  | element (x : Char)
  /-- Everything before one character. -/
  | upTo (x : Char)

namespace LiteralMove

/-- The move on a text. -/
def onText : LiteralMove → Move Char
  | sequence us => .sequence us
  | upToSequence us => .upToSequence us
  | element x => .element x
  | upTo x => .upTo x

/-- The move on bytes, where one character is a sequence. -/
def onBytes : LiteralMove → Move UInt8
  | sequence us => .sequence (encode us)
  | upToSequence us => .upToSequence (encode us)
  | element x => .sequence (encode [x])
  | upTo x => .upToSequence (encode [x])

end LiteralMove

/-- **A request that says which characters.** -/
inductive LiteralRequest where
  /-- Whether characters are next. -/
  | startsWith (us : List Char)
  /-- Making a move. -/
  | skip (m : LiteralMove)
  /-- Making a move, and answering with what was passed. -/
  | scan (m : LiteralMove)
  /-- Passing characters that have to be next. -/
  | expect (us : List Char)

namespace LiteralRequest

/-- The request about a text. -/
def onText : LiteralRequest → Request Char
  | startsWith us => .startsWith us
  | skip m => .skip m.onText
  | scan m => .scan m.onText
  | expect us => .expect (.sequence us)

/-- The request about bytes. -/
def onBytes : LiteralRequest → Request UInt8
  | startsWith us => .startsWith (encode us)
  | skip m => .skip m.onBytes
  | scan m => .scan m.onBytes
  | expect us => .expect (.sequence (encode us))

end LiteralRequest

/-! ## A text and its bytes -/

namespace Text

open Input

/-- **The bytes a text is encoded in**, one index each. -/
def bytes (t : Text) : Sequence UInt8 := ⟨t.string.toByteArray.data, t.size_lt⟩

theorem toList_bytes (t : Text) : toList t.bytes = encode (toList t) := by
  change t.string.toByteArray.data.toList = encode t.string.toList
  rw [← String.utf8Encode_toList, List.utf8Encode, List.toList_data_toByteArray, encode]

theorem left_bytes (t : Text) (k : Nat) : left t.bytes (t.width k) = encode (left t k) := by
  rw [left, toList_bytes]
  exact drop_encode t.string.toList k

/-- **A character starts at the index of its first byte.** -/
theorem start_bytes (t : Text) (k : Nat) : start t.bytes (t.width k) = start t k := by
  rw [← UInt64.toNat_inj, Sequence.toNat_start_of_le (t.width_le k), toNat_start]

/-- **A part of the bytes between characters** is the bytes of a part. -/
theorem part_bytes (t : Text) (k n : Nat) :
    part t.bytes (t.width k) (t.width (k + n)) = (part t k (k + n)).bytes := by
  refine LawfulInput.ext_toList ?_
  rw [toList_bytes, toList_part_add, width_add, toList_part_add, left_bytes, take_encode]

/-- **An index inside a character** has the start of the character as its last boundary. -/
theorem floor_start_bytes (t : Text) {k n b : Nat} (hk : k + n ≤ (toList t).length)
    (hle : utf8Width ((left t k).take n) ≤ b)
    (hlt : n < (left t k).length → b < utf8Width ((left t k).take (n + 1))) :
    floor t (start t.bytes (t.width k + b)) = start t (k + n) := by
  have hsize := t.width_le (k + n)
  have hstart : (start t.bytes (t.width k + b)).toNat =
      min (t.width k + b) t.string.utf8ByteSize := Sequence.toNat_start ..
  refine floor_eq_start_of_le hk ?_ ?_
  · rw [UInt64.le_iff_toNat_le, hstart, toNat_start]
    rw [width_add] at hsize ⊢
    omega
  · intro h
    have hb := hlt (by rw [length_left]; omega)
    rw [UInt64.lt_iff_toNat_lt, hstart, toNat_start, Nat.add_assoc, width_add]
    omega

end Text

/-! ## Literal moves -/

theorem passed_sequence_encode (us cs : List Char) :
    Move.passed (.sequence (encode us)) (encode cs) =
      utf8Width (cs.take (Move.passed (.sequence us) cs)) := by
  rw [Move.passed, Move.passed]
  simp only [startsWith_encode]
  split
  · next h =>
    obtain ⟨ds, rfl⟩ := startsWith_iff_isPrefix.mp h
    rw [List.take_left, length_encode]
  · rw [List.take_zero, utf8Width_nil]

/-- **A literal move passes the bytes of the characters it passes.** -/
theorem LiteralMove.passed_onBytes (m : LiteralMove) (cs : List Char) :
    m.onBytes.passed (encode cs) = utf8Width (cs.take (m.onText.passed cs)) := by
  cases m with
  | sequence us => exact passed_sequence_encode us cs
  | upToSequence us => exact firstOccurrence_encode us cs
  | element x =>
    rw [onText, ← Move.passed_sequence_singleton]
    exact passed_sequence_encode [x] cs
  | upTo x =>
    rw [onText, ← Move.passed_upToSequence_singleton]
    exact firstOccurrence_encode [x] cs

/-! ## Runs -/

/-- **An answer and what it is in bytes** — a part is the bytes of the other, and a failure has the
same cause and the other's index as its last boundary. -/
inductive Answer.InBytes (t : Text) : Answer Text Char → Answer (Sequence UInt8) UInt8 → Prop
  | done : InBytes t .done .done
  | flag (b : Bool) : InBytes t (.flag b) (.flag b)
  | span (s : Text) : InBytes t (.span s) (.span s.bytes)
  | foundSpan (s : Text) : InBytes t (.expectedSpan (.ok s)) (.expectedSpan (.ok s.bytes))
  | missedSpan {u v : Unmet} : u.Alike (fun i j => i = Input.floor t j) v →
    InBytes t (.expectedSpan (.error u)) (.expectedSpan (.error v))

/-- **An outcome and what it is in bytes** — at the same index, with the answer in bytes. -/
structure Outcome.InBytes (t : Text) (o : Outcome Text Char (Answer Text Char))
    (u : Outcome (Sequence UInt8) UInt8 (Answer (Sequence UInt8) UInt8)) : Prop where
  /-- The cursors are at the same index. -/
  position : u.cursor.position = o.cursor.position
  /-- The answers are the same, up to encoding. -/
  value : o.value.InBytes t u.value

namespace Text

open Cursor Input

/-- **The same cause in bytes**, somewhere in the character where the comparison breaks off. -/
theorem shortfall_bytes (t : Text) {k : Nat} (hk : k ≤ (toList t).length) (us : List Char) :
    (shortfall us (left t k) fun j => start t (k + j)).Alike (fun i j => i = floor t j)
      (shortfall (encode us) (left t.bytes (t.width k))
        fun j => start t.bytes (t.width k + j)) := by
  have hplace : floor t (start t.bytes
      (t.width k + agreement (encode us) (encode (left t k)))) =
      start t (k + agreement us (left t k)) := by
    obtain ⟨hle, hlt⟩ := agreement_encode us (left t k)
    have hlength := agreement_le_right us (left t k)
    rw [length_left] at hlength
    exact floor_start_bytes t (by omega) hle hlt
  rw [shortfall, shortfall, left_bytes]
  simp only [agreement_encode_eq_length_iff]
  split
  · exact .endOfInput hplace.symm
  · exact .mismatch hplace.symm

/-- **One literal request of a text and of its bytes.** -/
theorem ask_literal (t : Text) {k : Nat} (hk : k ≤ (toList t).length) (r : LiteralRequest) :
    ∃ o u l, (before t k).ask r.onText = .ok o ∧
      (before t.bytes (t.width k)).ask r.onBytes = .ok u ∧
      o.cursor = before t l ∧ u.cursor = before t.bytes (t.width l) ∧
      o.value.InBytes t u.value := by
  cases r with
  | startsWith us =>
    have hflag : (before t.bytes (t.width k)).startsWith (encode us) =
        (before t k).startsWith us := by
      rw [startsWith_before, startsWith_before, left_bytes, isEmpty_encode]
      simp only [startsWith_encode]
    refine ⟨_, _, k, rfl, rfl, rfl, rfl, ?_⟩
    change Answer.InBytes t (.flag _) (.flag _)
    rw [hflag]
    exact .flag _
  | skip m =>
    refine ⟨_, _, _, rfl, rfl, congrArg Outcome.cursor (skip_before t k m.onText), ?_, .done⟩
    rw [Outcome.cursor_map, skip_before, left_bytes, m.passed_onBytes, width_add]
  | scan m =>
    refine ⟨_, _, _, ask_scan_before t k m.onText, ask_scan_before t.bytes _ m.onBytes, rfl, ?_, ?_⟩
    · rw [left_bytes, m.passed_onBytes, width_add]
    · rw [left_bytes, m.passed_onBytes, ← width_add, part_bytes]
      exact .span _
  | expect us =>
    have hstarts : StartsWith (encode us) (left t.bytes (t.width k)) ↔
        StartsWith us (left t k) := by
      rw [left_bytes, startsWith_encode]
    have htext := expectSequence_before t us k
    have hbytes := expectSequence_before t.bytes (encode us) (t.width k)
    simp only [hstarts] at hbytes
    by_cases hs : StartsWith us (left t k)
    · rw [if_pos hs] at htext hbytes
      have hwidth : t.width (k + us.length) = t.width k + utf8Width us := by
        obtain ⟨ds, hds⟩ := startsWith_iff_isPrefix.mp hs
        rw [width_add, ← hds, List.take_left]
      rw [length_encode, ← hwidth, part_bytes] at hbytes
      refine ⟨_, _, k + us.length, congrArg (Except.map _) htext, congrArg (Except.map _) hbytes,
        rfl, rfl, .foundSpan _⟩
    · rw [if_neg hs] at htext hbytes
      exact ⟨_, _, k, congrArg (Except.map _) htext, congrArg (Except.map _) hbytes, rfl, rfl,
        .missedSpan (shortfall_bytes t hk us)⟩

/-- **A run of literal requests of a text and of its bytes**, from the same character. -/
theorem askAll_literal (t : Text) {k : Nat} (hk : k ≤ (toList t).length)
    (rs : List LiteralRequest) :
    ∃ os us, (before t k).askAll (rs.map LiteralRequest.onText) = .ok os ∧
      (before t.bytes (t.width k)).askAll (rs.map LiteralRequest.onBytes) = .ok us ∧
      Lockstep (fun _ o u => o.InBytes t u) rs os us := by
  induction rs generalizing k with
  | nil => exact ⟨[], [], rfl, rfl, .nil⟩
  | cons r rs ih =>
    obtain ⟨o, u, l, ho, hu, htext, hbytes, hvalue⟩ := t.ask_literal hk r
    have hposition : u.cursor.position = o.cursor.position := by
      rw [htext, hbytes, position_before, position_before, start_bytes]
    rw [← before_min_length] at htext
    rw [← t.width_min_length] at hbytes
    obtain ⟨os, us, hos, hus, hrun⟩ := ih (Nat.min_le_right l (toList t).length)
    rw [← htext] at hos
    rw [← hbytes] at hus
    exact ⟨o :: os, u :: us, askAll_cons ho hos, askAll_cons hu hus, .cons ⟨hposition, hvalue⟩ hrun⟩

/-- **A text is the sequence of the bytes it is encoded in.**  From any boundary, what is asked word
for word of a text and of its bytes comes to the same: after each request the cursors are at the
same index, the answers agree, parts of bytes are the bytes of the parts of text, and where an
expectation fails it fails in both, with the same cause, the text's index being the last boundary at
or before that of the bytes. -/
theorem askAll_bytes (t : Text) {i : Index} (hi : t.isBoundary i = true)
    (rs : List LiteralRequest) :
    ∃ os us, (⟨t, i⟩ : Cursor Text).askAll (rs.map LiteralRequest.onText) = .ok os ∧
      (⟨t.bytes, i⟩ : Cursor (Sequence UInt8)).askAll (rs.map LiteralRequest.onBytes) = .ok us ∧
      Lockstep (fun _ o u => o.InBytes t u) rs os us := by
  obtain ⟨k, rfl⟩ := isBoundary_iff_exists_start.mp hi
  have hrun := t.askAll_literal (Nat.min_le_right k (toList t).length) rs
  rwa [before_min_length, width_min_length, before, before, start_bytes] at hrun

/-- The characters `é` and `è` share their first byte.  Behind the `a` of `aéèé!`, a search for `è`
is misled by it; where the search ends, `é` is not next; two `è` are expected in vain, and the bytes
differ in the middle of the second `é`; one `è` is passed, and a search for `!` passes that `é`. -/
theorem askAll_bytes_behind_accent :
    (⟨"aéèé!", by decide⟩ : Text).isBoundary 1 = true ∧
      ∃ os us,
        (⟨⟨"aéèé!", by decide⟩, 1⟩ : Cursor Text).askAll
          [.scan (.upToSequence ['è']), .startsWith ['é'], .expect (.sequence ['è', 'è']),
            .skip (.element 'è'), .scan (.upTo '!'), .expect (.sequence [])] = .ok os ∧
        (⟨bytes ⟨"aéèé!", by decide⟩, 1⟩ : Cursor (Sequence UInt8)).askAll
          [.scan (.upToSequence (encode ['è'])), .startsWith (encode ['é']),
            .expect (.sequence (encode ['è', 'è'])), .skip (.sequence (encode ['è'])),
            .scan (.upToSequence (encode ['!'])), .expect (.sequence (encode []))] = .ok us ∧
        Lockstep (fun _ o u => o.InBytes ⟨"aéèé!", by decide⟩ u)
          [LiteralRequest.scan (.upToSequence ['è']), .startsWith ['é'], .expect ['è', 'è'],
            .skip (.element 'è'), .scan (.upTo '!'), .expect []] os us :=
  ⟨by decide, askAll_bytes (i := 1) ⟨"aéèé!", by decide⟩ (by decide)
    [.scan (.upToSequence ['è']), .startsWith ['é'], .expect ['è', 'è'], .skip (.element 'è'),
      .scan (.upTo '!'), .expect []]⟩

end Text

end ForwardCursor
