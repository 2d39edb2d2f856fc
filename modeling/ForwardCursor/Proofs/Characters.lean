import ForwardCursor.Proofs.Boundary.Sequence
import ForwardCursor.Proofs.Boundary.Text
import ForwardCursor.Proofs.Lockstep

/-!
# Proofs/Characters — a text is the sequence of its characters

A cursor on a text and a cursor on the sequence of its characters, asked the same, do the same: the
index `j` of the sequence stands for the index `t.width j` of the text, where the encodings of the
first `j` characters end.  Only where a request names an index does the sequence have to be asked
for another one, the number of characters that end at or before it.
-/

namespace ForwardCursor

namespace Text

open Input

/-- **The characters of a text**, one index each. -/
def characters (t : Text) : Sequence Char where
  items := t.string.toList.toArray
  size_lt := by
    rw [List.size_toArray]
    exact Nat.lt_of_le_of_lt (utf8ByteSize_eq_utf8Width _ ▸ length_le_utf8Width _) t.size_lt

/-- **How many characters end at or before an index.** -/
def charactersUpTo (t : Text) (i : Index) : Nat :=
  (List.range t.string.toList.length).countP fun k => t.width (k + 1) ≤ i.toNat

/-- **A request put to the characters of a text** — the same, but for an index it names. -/
def onCharacters (t : Text) : Request Char → Request Char
  | .moveTo i => .moveTo (.ofNat (t.charactersUpTo i))
  | .returnTo m => .returnTo ⟨.ofNat (t.charactersUpTo m.position)⟩
  | .since m => .since ⟨.ofNat (t.charactersUpTo m.position)⟩
  | r => r

theorem countUpTo_eq_charactersUpTo (t : Text) (i : Index) :
    countUpTo t i = t.charactersUpTo i := by
  refine List.countP_congr ?_
  intro k _
  rw [decide_eq_true_eq, decide_eq_true_eq, UInt64.le_iff_toNat_le, toNat_start]

/-- **A sequence counts the elements before an index by the index.** -/
theorem countUpTo_ofNat {α : Type} (s : Sequence α) {k : Nat} (hk : k ≤ s.items.size) :
    countUpTo s (.ofNat k) = k := by
  have hsize := s.size_lt
  have hindex : UInt64.ofNat k = start s k := by
    rw [← UInt64.toNat_inj, Sequence.toNat_start_of_le hk, Index.toNat_ofNat_of_lt (by omega)]
  rw [hindex, countUpTo_start hk]

theorem width_toNat_start_characters (t : Text) (k : Nat) :
    t.width (start t.characters k).toNat = t.width k := by
  rw [Sequence.toNat_start]
  exact t.width_min_length k

/-- **A text runs parallel to its characters.** -/
theorem parallel_characters (t : Text) :
    Parallel (· = ·) (fun i j => i.toNat = t.width j.toNat)
      (fun i j => j = .ofNat (t.charactersUpTo i)) t t.characters 0 where
  le_length := Nat.zero_le _
  elements := forall₂_eq_refl _
  eq := alikeEq_refl
  start k := by
    rw [Nat.zero_add, toNat_start, width_toNat_start_characters]
  countUpTo {i j} h := by
    have hle : t.charactersUpTo i ≤ t.characters.items.size :=
      countUpTo_eq_charactersUpTo t i ▸ countUpTo_le_length t i
    rw [h, countUpTo_ofNat t.characters hle, countUpTo_eq_charactersUpTo, Nat.zero_add]

theorem alike_onCharacters (t : Text) : ∀ r : Request Char,
    r.Alike (· = ·) (fun i j => j = .ofNat (t.charactersUpTo i)) (t.onCharacters r)
  | .position => .position
  | .size => .size
  | .atEnd => .atEnd
  | .current => .current
  | .peek n => .peek n
  | .ahead n => .ahead n
  | .rest => .rest
  | .startsWith ys => .startsWith (forall₂_eq_refl ys)
  | .mark => .mark
  | .since _ => .since rfl
  | .describe => .describe
  | .moveTo _ => .moveTo rfl
  | .returnTo _ => .returnTo rfl
  | .advance => .advance
  | .skip m => .skip m.alike_refl
  | .scan m => .scan m.alike_refl
  | .scanOne => .scanOne
  | .expect e => .expect e.alike_refl

/-- **A text is the sequence of its characters.**  Any run of requests comes to the same on both:
each outcome on the text has the elements, answers, questions and events of the one on the
characters, and its indices are where the encodings of as many characters end. -/
theorem askAll_characters (t : Text) (rs : List (Request Char)) :
    ∃ os us, (Cursor.ofInput t).askAll rs = .ok os ∧
      (Cursor.ofInput t.characters).askAll (rs.map t.onCharacters) = .ok us ∧
      Lockstep (Outcome.Alike (· = ·) fun i j => i.toNat = t.width j.toNat) rs os us := by
  refine t.parallel_characters.askAll ?_ (Nat.zero_le _)
  rw [List.forall₂_map_right_iff, List.forall₂_same]
  exact fun r _ => t.alike_onCharacters r

end Text

end ForwardCursor
