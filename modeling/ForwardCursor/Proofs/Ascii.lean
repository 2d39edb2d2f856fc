import ForwardCursor.Proofs.Bytes

/-!
# Proofs/Ascii — on ASCII a text cannot be told from its bytes

    text  ──requests──▸ outcomes
      │ bytes              │ asBytes
    bytes ──requests──▸ outcomes

An ASCII character is encoded in one byte, the byte of its code point.  A text of such characters
and the sequence of its bytes therefore have their elements at the same indices, and no index of the
text falls inside a character: they run parallel with indices that are not related, but equal.  What
`Parallel.ask` does not compare, the wording of a description and the events of going to an index,
is equal as well, so an outcome of the bytes is that of the text with every character replaced by
its byte (`askAll_ascii`).
-/

namespace ForwardCursor

open Input

/-! ## Characters of one byte -/

/-- **An ASCII character and its byte.** -/
structure AsciiByte (x : Char) (b : UInt8) : Prop where
  /-- The character is an ASCII one. -/
  lt : x.toNat < 128
  /-- Its code point is the byte. -/
  toNat_eq : b.toNat = x.toNat

/-- **Whether all characters of a text are ASCII ones.** -/
def Text.IsAscii (t : Text) : Prop := ∀ x ∈ t.string.toList, x.toNat < 128

instance (t : Text) : Decidable t.IsAscii :=
  List.decidableBAll (fun x : Char => x.toNat < 128) t.string.toList

section AsciiByte

variable {x : Char} {b : UInt8} {xs : List Char} {bs : List UInt8}

theorem toNat_toUInt8 (hx : x.toNat < 128) : x.toUInt8.toNat = x.toNat := by
  rw [← Char.toUInt8_val, UInt32.toNat_toUInt8]
  exact Nat.mod_eq_of_lt (hx.trans (by decide))

theorem asciiByte_iff : AsciiByte x b ↔ x.toNat < 128 ∧ b = x.toUInt8 := by
  constructor
  · rintro ⟨hx, hb⟩
    exact ⟨hx, UInt8.toNat_inj.mp (hb.trans (toNat_toUInt8 hx).symm)⟩
  · rintro ⟨hx, rfl⟩
    exact ⟨hx, toNat_toUInt8 hx⟩

theorem forall₂_asciiByte_iff :
    List.Forall₂ AsciiByte xs bs ↔ (∀ x ∈ xs, x.toNat < 128) ∧ bs = xs.map Char.toUInt8 := by
  constructor
  · intro h
    induction h with
    | nil => exact ⟨by simp, rfl⟩
    | cons hxb _ ih =>
      obtain ⟨hx, rfl⟩ := asciiByte_iff.mp hxb
      exact ⟨List.forall_mem_cons.mpr ⟨hx, ih.1⟩, by rw [ih.2, List.map_cons]⟩
  · rintro ⟨hxs, rfl⟩
    rw [List.forall₂_map_right_iff, List.forall₂_same]
    exact fun x hx => asciiByte_iff.mpr ⟨hxs x hx, rfl⟩

/-- **ASCII characters are equal when their bytes are.** -/
theorem alikeEq_asciiByte : AlikeEq AsciiByte where
  beq {x y b c} hx hy := by
    rw [Bool.eq_iff_iff, beq_iff_eq, beq_iff_eq, ← Char.toNat_inj, ← UInt8.toNat_inj, hx.toNat_eq,
      hy.toNat_eq]

theorem encode_of_ascii (hxs : ∀ x ∈ xs, x.toNat < 128) : encode xs = xs.map Char.toUInt8 := by
  induction xs with
  | nil => rfl
  | cons x xs ih =>
    obtain ⟨hx, hxs⟩ := List.forall_mem_cons.mp hxs
    have hsize : x.utf8Size = 1 :=
      Char.utf8Size_eq_one_iff.mpr (UInt32.le_iff_toNat_le.mpr (Nat.le_of_lt_succ hx))
    rw [encode_cons, String.utf8EncodeChar_eq_singleton hsize, ih hxs, List.singleton_append,
      List.map_cons, Char.toUInt8_val]

end AsciiByte

/-! ## Classes of ASCII characters and of bytes

A class of ASCII characters has its counterpart among the classes of bytes, in whichever way the two
are given: one lists the bytes of the characters that the other lists, or its bounds are the bytes
of the other's. -/

section Classes

open Acceptor

variable {x y : Char} {b c : UInt8}

/-- **Classes that list ASCII characters and their bytes** are alike. -/
theorem alikeClass_of_lists {S U : Type} [Acceptor S Char] [Acceptor U UInt8] {s : S} {u : U}
    {xs : List Char} (hxs : ∀ x ∈ xs, x.toNat < 128) (hs : Lists s xs)
    (hu : Lists u (xs.map Char.toUInt8)) : AlikeClass AsciiByte (accepts s) (accepts u) :=
  alikeEq_asciiByte.accepts (forall₂_asciiByte_iff.mpr ⟨hxs, rfl⟩) hs hu

/-- **ASCII characters are in the order of their bytes.** -/
theorem alikeOrder_asciiByte : AlikeOrder AsciiByte := by
  intro x y b c hx hy
  rw [UInt8.le_iff_toNat_le, hx.toNat_eq, hy.toNat_eq]
  exact UInt32.le_iff_toNat_le

theorem alikeClass_rcc (hx : AsciiByte x b) (hy : AsciiByte y c) :
    AlikeClass AsciiByte (accepts (x ...= y)) (accepts (b ...= c)) :=
  alikeOrder_asciiByte.accepts_rcc hx hy

theorem alikeClass_rco (hx : AsciiByte x b) (hy : AsciiByte y c) :
    AlikeClass AsciiByte (accepts (x ...< y)) (accepts (b ...< c)) :=
  alikeOrder_asciiByte.accepts_rco hx hy

end Classes

/-! ## An ASCII text runs parallel to its bytes -/

namespace Text

variable {t : Text}

/-- **Bytes that are those of ASCII characters** are the bytes of the text. -/
theorem eq_bytes_of_forall₂ {s : Sequence UInt8}
    (h : List.Forall₂ AsciiByte (toList t) (toList s)) : s = t.bytes := by
  obtain ⟨hascii, hmap⟩ := forall₂_asciiByte_iff.mp h
  exact LawfulInput.ext_toList (by rw [hmap, toList_bytes, encode_of_ascii hascii])

section

variable (ht : t.IsAscii)

include ht

theorem IsAscii.elements : List.Forall₂ AsciiByte (toList t) (toList t.bytes) :=
  forall₂_asciiByte_iff.mpr ⟨ht, by rw [toList_bytes]; exact encode_of_ascii ht⟩

theorem IsAscii.length_bytes : (toList t.bytes).length = (toList t).length :=
  ht.elements.length_eq.symm

/-- **The elements start at the same indices.** -/
theorem IsAscii.start_eq (k : Nat) : start t.bytes k = start t k := by
  have hwidth : ∀ k, t.width k = min k t.bytes.items.size := fun k => by
    have htake : ∀ x ∈ t.string.toList.take k, x.toNat < 128 :=
      fun x hx => ht x (List.mem_of_mem_take hx)
    rw [width, ← length_encode, encode_of_ascii htake, List.length_map, List.length_take,
      ← Sequence.length_toList, ht.length_bytes]
    rfl
  rw [← UInt64.toNat_inj, toNat_start, Sequence.toNat_start, hwidth]

theorem IsAscii.countUpTo_eq (i : Index) : countUpTo t.bytes i = countUpTo t i := by
  rw [countUpTo, countUpTo, ht.length_bytes]
  simp only [ht.start_eq]

/-- **No index falls inside a character.** -/
theorem IsAscii.floor_eq (i : Index) : Input.floor t.bytes i = Input.floor t i := by
  rw [floor_eq_start_countUpTo, floor_eq_start_countUpTo, ht.countUpTo_eq, ht.start_eq]

theorem IsAscii.size_eq : Input.size t.bytes = Input.size t := by
  rw [← LawfulInput.start_length, ← LawfulInput.start_length, ht.length_bytes, ht.start_eq]

/-- **An ASCII text runs parallel to its bytes**, at equal indices. -/
theorem IsAscii.parallel : Parallel AsciiByte (· = ·) (· = ·) t t.bytes 0 where
  le_length := Nat.zero_le _
  elements := ht.elements
  eq := alikeEq_asciiByte
  start k := by rw [Nat.zero_add, ht.start_eq]
  countUpTo := by
    rintro i _ rfl
    rw [Nat.zero_add, ht.countUpTo_eq]

end

end Text

/-! ## Outcomes in bytes -/

/-- **An answer with bytes for characters.** -/
def Answer.asBytes : Answer Text Char → Answer (Sequence UInt8) UInt8
  | .done => .done
  | .index i => .index i
  | .mark m => .mark m
  | .flag b => .flag b
  | .element x => .element (x.map Char.toUInt8)
  | .span s => .span s.bytes
  | .text s => .text s
  | .expectedElement r => .expectedElement (r.map Char.toUInt8)
  | .expectedSpan r => .expectedSpan (r.map Text.bytes)

/-- **An outcome with bytes for characters**: the cursor is at the same index of the bytes, and what
is reported is the same. -/
def Outcome.asBytes (o : Outcome Text Char (Answer Text Char)) :
    Outcome (Sequence UInt8) UInt8 (Answer (Sequence UInt8) UInt8) where
  value := o.value.asBytes
  cursor := ⟨o.cursor.input.bytes, o.cursor.position⟩
  asked := o.asked.map Char.toUInt8
  events := o.events

theorem Unmet.eq_of_alike {u v : Unmet} (h : u.Alike (· = ·) v) : v = u := by
  rcases h with rfl | rfl
  · rfl
  · rfl

theorem Event.eq_of_alike {e e' : Event} (h : e.Alike (· = ·) e') : e' = e := by
  cases h with
  | sequenceUnmet hij huv => rw [hij, Unmet.eq_of_alike huv]
  | _ hij => rw [hij]

theorem Event.eq_of_forall₂ {es fs : List Event}
    (h : List.Forall₂ (Event.Alike (· = ·)) es fs) : fs = es := by
  induction h with
  | nil => rfl
  | cons he _ ih => rw [Event.eq_of_alike he, ih]

/-- **Alike answers are equal in bytes**, descriptions of the same wording provided. -/
theorem Answer.Alike.eq_asBytes {v : Answer Text Char} {w : Answer (Sequence UInt8) UInt8}
    (h : v.Alike AsciiByte (· = ·) w) (htext : ∀ a b, v = .text a → w = .text b → b = a) :
    w = v.asBytes := by
  cases h with
  | done | flag => rfl
  | index hij => exact congrArg Answer.index hij.symm
  | mark hij => exact congrArg (fun i => Answer.mark ⟨i⟩) hij.symm
  | element hxy =>
    rcases hxy with hxy | -
    · exact congrArg (fun b => Answer.element (some b)) (asciiByte_iff.mp hxy).2
    · rfl
  | span hspan => exact congrArg Answer.span (Text.eq_bytes_of_forall₂ hspan)
  | text a b => exact congrArg Answer.text (htext a b rfl rfl)
  | foundElement hxy =>
    exact congrArg (fun b => Answer.expectedElement (.ok b)) (asciiByte_iff.mp hxy).2
  | missedElement huv =>
    exact congrArg (fun u => Answer.expectedElement (.error u)) (Unmet.eq_of_alike huv)
  | foundSpan hspan =>
    exact congrArg (fun s => Answer.expectedSpan (.ok s)) (Text.eq_bytes_of_forall₂ hspan)
  | missedSpan huv =>
    exact congrArg (fun u => Answer.expectedSpan (.error u)) (Unmet.eq_of_alike huv)

namespace Cursor

section Describe

theorem exists_of_map_eq_ok {ε σ τ : Type} {x : Except ε σ} {f : σ → τ} {z : τ}
    (h : x.map f = .ok z) : ∃ y, f y = z := by
  rcases x with _ | y
  · cases h
  · exact ⟨y, Except.ok.inj h⟩

variable {C α : Type} [Input C α] [BEq α]

/-- **Only a description is answered in words.** -/
theorem eq_describe_of_text {c : Cursor C} {r : Request α} {o : Outcome C α (Answer C α)}
    (h : c.ask r = .ok o) {a : String} (ha : o.value = .text a) : a = c.describe := by
  cases r with
  | describe =>
    cases h
    exact (Answer.text.inj ha).symm
  | position | size | atEnd | current | peek | startsWith | mark | moveTo | returnTo | advance
  | skip | scanOne =>
    cases h
    cases ha
  | ahead | rest | since | scan =>
    obtain ⟨_, rfl⟩ := exists_of_map_eq_ok h
    cases ha
  | expect e =>
    cases e with
    | element =>
      cases h
      cases ha
    | sequence | members =>
      obtain ⟨_, rfl⟩ := exists_of_map_eq_ok h
      cases ha

end Describe

end Cursor

namespace Text

open Cursor

section

variable {t : Text} (ht : t.IsAscii)

include ht

theorem IsAscii.before_bytes (k : Nat) :
    before t.bytes k = ⟨(before t k).input.bytes, (before t k).position⟩ :=
  congrArg (Cursor.mk t.bytes) (ht.start_eq k)

/-- **Going to an index is reported alike**, whether it is met or not. -/
theorem IsAscii.events_moveTo (k : Nat) (i : Index) :
    ((before t.bytes k).moveTo i).events = ((before t k).moveTo i).events := by
  change (if Input.floor t.bytes i = i then _ else [Event.clamped i (Input.floor t.bytes i)]) = _
  rw [ht.floor_eq]
  rfl

theorem IsAscii.describe_eq (k : Nat) : (before t.bytes k).describe = (before t k).describe := by
  have hposition : (before t.bytes k).position = (before t k).position := ht.start_eq k
  have hsize : (before t.bytes k).size = (before t k).size := ht.size_eq
  unfold describe
  rw [hposition, hsize]

/-- **One request of an ASCII text and of its bytes.** -/
theorem IsAscii.ask {r : Request Char} {s : Request UInt8} (hr : r.Alike AsciiByte (· = ·) s)
    {k : Nat} (hk : k ≤ (toList t).length) :
    ∃ o l, (before t k).ask r = .ok o ∧ (before t.bytes k).ask s = .ok o.asBytes ∧
      o.cursor = before t l ∧ o.asBytes.cursor = before t.bytes l := by
  obtain ⟨o, u, l, ho, hu, hfst, hsnd, halike⟩ := ht.parallel.ask hr (ht.length_bytes ▸ hk)
  rw [Nat.zero_add] at ho hfst
  have hcursor : o.asBytes.cursor = before t.bytes l := by
    rw [Outcome.asBytes, hfst, ← ht.before_bytes]
  have hvalue : u.value = o.asBytes.value := by
    refine halike.value.eq_asBytes ?_
    intro a b ha hb
    rw [eq_describe_of_text ho ha, eq_describe_of_text hu hb, ht.describe_eq]
  have hasked : u.asked = o.asBytes.asked := (forall₂_asciiByte_iff.mp halike.asked).2
  have hevents : u.events = o.asBytes.events := by
    cases hr with
    | moveTo hi | returnTo hi =>
      obtain rfl := hi
      cases ho
      cases hu
      exact ht.events_moveTo k _
    | _ => exact Event.eq_of_forall₂ (halike.events rfl)
  have hbytes : u = o.asBytes := by
    rcases u with ⟨_, _, _, _⟩
    rw [Outcome.mk.injEq]
    exact ⟨hvalue, hsnd.trans hcursor.symm, hasked, hevents⟩
  exact ⟨o, l, ho, hbytes ▸ hu, hfst, hcursor⟩

/-- **A run of requests of an ASCII text and of its bytes**, from the same index. -/
theorem IsAscii.askAll {rs : List (Request Char)} {ss : List (Request UInt8)}
    (hrs : List.Forall₂ (Request.Alike AsciiByte (· = ·)) rs ss) {k : Nat}
    (hk : k ≤ (toList t).length) :
    ∃ os, (before t k).askAll rs = .ok os ∧
      (before t.bytes k).askAll ss = .ok (os.map Outcome.asBytes) := by
  induction hrs generalizing k with
  | nil => exact ⟨[], rfl, rfl⟩
  | cons hr _ ih =>
    obtain ⟨o, l, ho, hu, hfst, hsnd⟩ := ht.ask hr hk
    obtain ⟨os, hos, hus⟩ := ih (Nat.min_le_right l (toList t).length)
    rw [before_min_length, ← hfst] at hos
    rw [← ht.length_bytes, before_min_length, ← hsnd] at hus
    exact ⟨o :: os, askAll_cons ho hos, askAll_cons hu hus⟩

end

/-- **On ASCII a text cannot be told from its bytes.**  Asked the same about ASCII characters and
about their bytes — with predicates that answer alike, and any indices to go to — a cursor on a text
and one on its bytes give the same outcomes one after another: the same indices, answers, failures
and events, and bytes where the text gives characters. -/
theorem askAll_ascii (t : Text) (ht : t.IsAscii) {rs : List (Request Char)}
    {ss : List (Request UInt8)} (hrs : List.Forall₂ (Request.Alike AsciiByte (· = ·)) rs ss) :
    ∃ os, (ofInput t).askAll rs = .ok os ∧
      (ofInput t.bytes).askAll ss = .ok (os.map Outcome.asBytes) :=
  ht.askAll hrs (Nat.zero_le _)

/-- Past the end and back, a run of changing characters, characters of a string and of a range, a
search that is misled once, and an element that is not there.  The bytes of the string are in an
array, and in another order. -/
theorem askAll_ascii_misled :
    Text.IsAscii ⟨"ab*a*/", by decide⟩ ∧
      ∃ os, (ofInput (⟨"ab*a*/", by decide⟩ : Text)).askAll
          [.moveTo 9, .returnTo ⟨1⟩, .scan (.run .changes), .returnTo ⟨0⟩,
            .scan (.upToMember (accepts "/*")), .expect (.members (accepts ('!' ...= '*'))),
            .skip (.upToSequence ['*', '/']), .expect (.element '/'), .since ⟨1⟩] = .ok os ∧
        (ofInput (bytes ⟨"ab*a*/", by decide⟩)).askAll
          [.moveTo 9, .returnTo ⟨1⟩, .scan (.run .changes), .returnTo ⟨0⟩,
            .scan (.upToMember (accepts #[(0x2A : UInt8), 0x2F])),
            .expect (.members (accepts ((0x21 : UInt8) ...= 0x2A))),
            .skip (.upToSequence [0x2A, 0x2F]), .expect (.element 0x2F), .since ⟨1⟩] =
          .ok (os.map Outcome.asBytes) := by
  have hascii : Text.IsAscii ⟨"ab*a*/", by decide⟩ := by decide
  have hbang : AsciiByte '!' 0x21 := ⟨by decide, rfl⟩
  have hstar : AsciiByte '*' 0x2A := ⟨by decide, rfl⟩
  have hslash : AsciiByte '/' 0x2F := ⟨by decide, rfl⟩
  have hclass : AlikeClass AsciiByte (accepts "/*") (accepts #[(0x2A : UInt8), 0x2F]) := by
    have hmarks : ∀ x ∈ ['/', '*'], x.toNat < 128 :=
      List.forall_mem_cons.mpr ⟨hslash.lt, List.forall_mem_singleton.mpr hstar.lt⟩
    have hbytes : Acceptor.Lists #[(0x2A : UInt8), 0x2F] (['/', '*'].map Char.toUInt8) :=
      (Acceptor.lists_array _).of_mem_iff fun _ => (List.Perm.swap 0x2A 0x2F []).mem_iff
    exact alikeClass_of_lists hmarks (Acceptor.lists_string "/*") hbytes
  exact ⟨hascii, askAll_ascii _ hascii
    (.cons (.moveTo rfl) (.cons (.returnTo rfl)
      (.cons (.scan (.run (alikeEq_asciiByte.changes))) (.cons (.returnTo rfl)
        (.cons (.scan (.upToMember hclass)) (.cons (.expect (.members (alikeClass_rcc hbang hstar)))
          (.cons (.skip (.upToSequence (.cons hstar (.cons hslash .nil))))
            (.cons (.expect (.element hslash)) (.cons (.since rfl) .nil)))))))))⟩

end Text

end ForwardCursor
