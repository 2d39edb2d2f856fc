import ForwardCursor.Proofs.Boundary.Text
import ForwardCursor.Proofs.Reading

/-!
# Proofs/Utf8 — characters and the bytes they are encoded in

Two facts about UTF-8 carry over what is found in a list of characters to its encoding: one encoding
starts with another only if the characters do (`encode_isPrefix_encode`), and the first byte of a
character is found inside no other (`not_startsWith_drop`).  Thus a sequence of bytes that encodes
characters is found first where the characters are (`firstOccurrence_encode`), and a comparison of
bytes breaks off inside the character where that of the characters does (`agreement_encode`).
-/

namespace ForwardCursor

/-- **The bytes characters are encoded in.** -/
def encode (cs : List Char) : List UInt8 := cs.flatMap String.utf8EncodeChar

@[simp] theorem encode_nil : encode [] = [] := rfl

@[simp] theorem encode_cons (x : Char) (cs : List Char) :
    encode (x :: cs) = String.utf8EncodeChar x ++ encode cs := List.flatMap_cons

theorem encode_singleton (x : Char) : encode [x] = String.utf8EncodeChar x := by
  rw [encode_cons, encode_nil, List.append_nil]

theorem encode_append (cs ds : List Char) : encode (cs ++ ds) = encode cs ++ encode ds :=
  List.flatMap_append

@[simp] theorem length_encode (cs : List Char) : (encode cs).length = utf8Width cs := by
  induction cs with
  | nil => rfl
  | cons x cs ih =>
    rw [encode_cons, List.length_append, String.length_utf8EncodeChar, ih, utf8Width_cons]

theorem take_encode (cs : List Char) (k : Nat) :
    (encode cs).take (utf8Width (cs.take k)) = encode (cs.take k) := by
  conv_lhs => rw [← List.take_append_drop k cs, encode_append]
  rw [List.take_append_drop, ← length_encode, List.take_left]

theorem drop_encode (cs : List Char) (k : Nat) :
    (encode cs).drop (utf8Width (cs.take k)) = encode (cs.drop k) := by
  conv_lhs => rw [← List.take_append_drop k cs, encode_append]
  rw [List.take_append_drop, ← length_encode, List.drop_left]

variable {us cs : List Char}

/-- **One encoding starts with another only if the characters do.** -/
theorem encode_isPrefix_encode : encode us <+: encode cs ↔ us <+: cs := by
  constructor
  · rintro ⟨bs, hbs⟩
    refine List.isPrefix_of_utf8Encode_append_eq_utf8Encode bs.toByteArray ?_
    rw [List.utf8Encode, List.utf8Encode, ← List.toByteArray_append]
    exact congrArg List.toByteArray hbs
  · rintro ⟨ds, rfl⟩
    rw [encode_append]
    exact List.prefix_append ..

theorem startsWith_encode : StartsWith (encode us) (encode cs) ↔ StartsWith us cs := by
  rw [startsWith_iff_isPrefix, startsWith_iff_isPrefix, encode_isPrefix_encode]

theorem encode_eq_nil : encode us = [] ↔ us = [] := by
  rw [← List.length_eq_zero_iff, length_encode]
  have := length_le_utf8Width us
  refine ⟨fun h => List.length_eq_zero_iff.mp (by omega), fun h => h ▸ rfl⟩

theorem isEmpty_encode (us : List Char) : (encode us).isEmpty = us.isEmpty := by
  rw [Bool.eq_iff_iff, List.isEmpty_iff, List.isEmpty_iff, encode_eq_nil]

/-! ## Occurrences -/

/-- **Characters are not found inside a character**, whatever follows it. -/
theorem not_startsWith_drop {x : Char} {j : Nat} (hne : us ≠ []) (hpos : 0 < j)
    (hlt : j < (String.utf8EncodeChar x).length) (bs : List UInt8) :
    ¬ StartsWith (encode us) ((String.utf8EncodeChar x ++ bs).drop j) := by
  obtain ⟨y, ys, rfl⟩ := List.exists_cons_of_ne_nil hne
  have hy : 0 < (String.utf8EncodeChar y).length := by
    rw [String.length_utf8EncodeChar]
    exact y.utf8Size_pos
  rw [startsWith_iff_isPrefix, encode_cons]
  intro hstarts
  -- the first byte of `y` would be a byte of `x` that is not its first
  have hbyte := hstarts.getElem (i := 0) (by rw [List.length_append]; omega)
  rw [List.getElem_append_left hy, List.getElem_drop] at hbyte
  simp only [Nat.add_zero, List.getElem_append_left hlt] at hbyte
  have hfirst : (String.utf8EncodeChar y)[0].IsUTF8FirstByte :=
    UInt8.isUTF8FirstByte_getElem_zero_utf8EncodeChar
  rw [hbyte, UInt8.isUTF8FirstByte_getElem_utf8EncodeChar] at hfirst
  omega

/-- **Bytes that encode characters are found first where the characters are.** -/
theorem firstOccurrence_encode (us cs : List Char) :
    firstOccurrence (encode us) (encode cs) = utf8Width (cs.take (firstOccurrence us cs)) := by
  rcases eq_or_ne us [] with rfl | hne
  · rw [encode_nil, firstOccurrence_nil_left, firstOccurrence_nil_left, List.take_zero,
      utf8Width_nil]
  induction cs with
  | nil => rfl
  | cons x cs ih =>
    by_cases hs : StartsWith us (x :: cs)
    · rw [firstOccurrence_of_startsWith hs,
        firstOccurrence_of_startsWith (startsWith_encode.mpr hs), List.take_zero, utf8Width_nil]
    · have hstretch : ∀ j < (String.utf8EncodeChar x).length,
          ¬ StartsWith (encode us) ((String.utf8EncodeChar x ++ encode cs).drop j) := by
        intro j hj
        rcases Nat.eq_zero_or_pos j with rfl | hpos
        · rwa [List.drop_zero, ← encode_cons, startsWith_encode]
        · exact not_startsWith_drop hne hpos hj _
      rw [firstOccurrence, if_neg hs, List.take_succ_cons, utf8Width_cons, encode_cons,
        firstOccurrence_append hstretch, String.length_utf8EncodeChar, ih]

/-! ## Comparisons -/

/-- **A comparison of encodings breaks off inside the character** where that of the characters
does. -/
theorem agreement_encode (us cs : List Char) :
    utf8Width (cs.take (agreement us cs)) ≤ agreement (encode us) (encode cs) ∧
      (agreement us cs < cs.length →
        agreement (encode us) (encode cs) < utf8Width (cs.take (agreement us cs + 1))) := by
  induction us generalizing cs with
  | nil =>
    rw [agreement_nil_left, encode_nil, agreement_nil_left]
    refine ⟨Nat.le_refl 0, ?_⟩
    intro h
    exact Nat.lt_of_lt_of_le (by rw [List.length_take]; omega) (length_le_utf8Width _)
  | cons y us ih =>
    rcases cs with _ | ⟨x, cs⟩
    · rw [agreement_nil_right, encode_nil, agreement_nil_right]
      exact ⟨Nat.le_refl 0, nofun⟩
    · rcases eq_or_ne x y with rfl | hxy
      · obtain ⟨hle, hlt⟩ := ih cs
        rw [agreement_cons_of_eq (beq_self_eq_true x), encode_cons, encode_cons,
          agreement_append_append, String.length_utf8EncodeChar, List.take_succ_cons,
          List.take_succ_cons, utf8Width_cons, utf8Width_cons]
        refine ⟨Nat.add_le_add_left hle _, ?_⟩
        intro h
        exact Nat.add_lt_add_left (hlt (Nat.lt_of_succ_lt_succ h)) _
      · have hstarts : ¬ String.utf8EncodeChar x <+: encode (y :: us) := by
          rw [← encode_singleton, encode_isPrefix_encode, List.cons_prefix_cons]
          exact fun h => hxy h.1
        rw [agreement_cons_of_ne (beq_false_of_ne hxy), List.take_zero]
        refine ⟨Nat.zero_le _, ?_⟩
        intro _
        rw [List.take_succ_cons, List.take_zero, ← length_encode, encode_singleton, encode_cons x]
        exact agreement_append_lt _ hstarts

/-- **Both come to the end of what is left, or neither does.** -/
theorem agreement_encode_eq_length_iff :
    agreement (encode us) (encode cs) = (encode cs).length ↔ agreement us cs = cs.length := by
  obtain ⟨hle, hlt⟩ := agreement_encode us cs
  have hchars := agreement_le_right us cs
  have hbytes := agreement_le_right (encode us) (encode cs)
  rw [length_encode] at hbytes ⊢
  constructor
  · intro h
    by_contra hne
    have hwidth := congrArg utf8Width (List.take_append_drop (agreement us cs + 1) cs)
    have hshort := hlt (by omega)
    rw [utf8Width_append] at hwidth
    omega
  · intro h
    rw [h, List.take_length] at hle
    exact Nat.le_antisymm hbytes hle

end ForwardCursor
