import ForwardCursor.Input

/-!
# Input/Text — a text, addressed by the bytes of its UTF-8 encoding

A character of a text occupies as many indices as its encoding has bytes, so the boundaries are
`0`, `size` and the byte offsets where a character starts.  Everything is read off three primitives:
`isBoundary`, the character at a boundary (`get?`) and the part between two boundaries (`slice?`).
The one addition, index plus encoded length, never wraps (`toNat_add_utf8Size`).

A `Text` stands for string slices and for owned strings alike: an owned string answers everything as
the slice of all its characters does.
-/

namespace ForwardCursor

/-- **A text short enough for its byte offsets to be words.** -/
structure Text where
  /-- The characters. -/
  string : String
  /-- The number of bytes is a word. -/
  size_lt : string.utf8ByteSize < UInt64.size

namespace Text

@[ext] theorem ext {s t : Text} (h : s.string = t.string) : s = t := by
  cases s
  cases t
  subst h
  rfl

/-- The text of a string, unless it is too long. -/
def ofString? (s : String) : Option Text :=
  if h : s.utf8ByteSize < UInt64.size then some ⟨s, h⟩ else none

/-- The number of bytes. -/
def size (t : Text) : Index := UInt64.ofNat t.string.utf8ByteSize

@[simp] theorem toNat_size (t : Text) : t.size.toNat = t.string.utf8ByteSize :=
  Index.toNat_ofNat_of_lt t.size_lt

/-- The byte offset an index is. -/
def offset (i : Index) : String.Pos.Raw := ⟨i.toNat⟩

/-- Whether an index is the end or the start of a character. -/
def isBoundary (t : Text) (i : Index) : Bool := (offset i).isValid t.string

theorem isBoundary_iff {t : Text} {i : Index} : t.isBoundary i ↔ (offset i).IsValid t.string :=
  String.Pos.Raw.isValid_eq_true_iff

/-- The position in the string that a boundary is. -/
def position? (t : Text) (i : Index) : Option t.string.Pos :=
  if h : (offset i).IsValid t.string then some ⟨offset i, h⟩ else none

theorem position?_eq_some_iff {t : Text} {i : Index} {p : t.string.Pos} :
    t.position? i = some p ↔ p.offset = offset i := by
  unfold position?
  split
  · next h => rw [Option.some.injEq, String.Pos.ext_iff, eq_comm]
  · next h => exact ⟨fun hp => (nomatch hp), fun hp => absurd (hp ▸ p.isValid) h⟩

/-- **The character that starts at an index** — none at the end, past it, or inside a character. -/
def get? (t : Text) (i : Index) : Option Char :=
  (t.position? i).bind fun p => if h : p = t.string.endPos then none else some (p.get h)

theorem get?_eq_some_iff {t : Text} {i : Index} {x : Char} :
    t.get? i = some x ↔
      ∃ (p : t.string.Pos) (h : p ≠ t.string.endPos), p.offset = offset i ∧ p.get h = x := by
  constructor
  · intro hx
    obtain ⟨p, hp, hx⟩ := Option.bind_eq_some_iff.mp hx
    obtain ⟨hv, hp⟩ := Option.dite_none_right_eq_some.mp hp
    obtain ⟨h, hx⟩ := Option.dite_none_left_eq_some.mp hx
    exact ⟨p, h, by rw [← Option.some.inj hp], Option.some.inj hx⟩
  · rintro ⟨p, h, hp, rfl⟩
    have hv : (offset i).IsValid t.string := hp ▸ p.isValid
    have hq : (⟨offset i, hv⟩ : t.string.Pos) = p := String.Pos.ext hp.symm
    rw [get?, position?, dif_pos hv, Option.bind_some, hq, dif_neg h]

/-- **The encoding of a character fits in the text.** -/
theorem toNat_add_utf8Size_le {t : Text} {i : Index} {x : Char} (h : t.get? i = some x) :
    i.toNat + x.utf8Size ≤ t.string.utf8ByteSize := by
  obtain ⟨p, hp, ho, rfl⟩ := get?_eq_some_iff.mp h
  have := (p.next hp).isValid.le_utf8ByteSize
  rwa [String.Pos.byteIdx_offset_next, ho] at this

/-- **…so stepping over it does not wrap.** -/
theorem toNat_add_utf8Size {t : Text} {i : Index} {x : Char} (h : t.get? i = some x) :
    (i + UInt64.ofNat x.utf8Size).toNat = i.toNat + x.utf8Size := by
  have hlt := Nat.lt_of_le_of_lt (toNat_add_utf8Size_le h) t.size_lt
  rw [UInt64.toNat_add, UInt64.toNat_ofNat', Nat.add_mod_mod]
  exact Nat.mod_eq_of_lt hlt

theorem lt_add_utf8Size {t : Text} {i : Index} {x : Char} (h : t.get? i = some x) :
    i < i + UInt64.ofNat x.utf8Size := by
  have := x.utf8Size_pos
  rw [UInt64.lt_iff_toNat_lt, toNat_add_utf8Size h]
  omega

theorem lt_size_of_get? {t : Text} {i : Index} {x : Char} (h : t.get? i = some x) :
    i < t.size := by
  have h₁ := toNat_add_utf8Size_le h
  have h₂ := x.utf8Size_pos
  rw [UInt64.lt_iff_toNat_lt, toNat_size]
  omega

/-- The index after the character at an index; the end where no character starts. -/
def next (t : Text) (i : Index) : Index :=
  match t.get? i with
  | some x => i + UInt64.ofNat x.utf8Size
  | none => t.size

theorem lt_next {t : Text} {i : Index} (h : i < t.size) : i < t.next i := by
  unfold next
  split
  · next hx => exact lt_add_utf8Size hx
  · exact h

/-- The index reached by stepping over characters, if there are as many. -/
def stepOver? (t : Text) : Index → Nat → Option Index
  | i, 0 => some i
  | i, n + 1 => (t.get? i).bind fun x => t.stepOver? (i + UInt64.ofNat x.utf8Size) n

theorem le_of_stepOver? {t : Text} :
    ∀ {i : Index} {n : Nat} {j : Index}, t.stepOver? i n = some j → i.toNat + n ≤ j.toNat
  | _, 0, _, h => by cases h; exact Nat.le_refl _
  | i, n + 1, j, h => by
    obtain ⟨x, hx, h⟩ := Option.bind_eq_some_iff.mp h
    have h₁ := le_of_stepOver? h
    have h₂ := x.utf8Size_pos
    rw [toNat_add_utf8Size hx] at h₁
    omega

/-- **Moving forward** — from a boundary over as many characters as asked, not past the limit. -/
def forward? (t : Text) (i n limit : Index) : Option Index :=
  if t.isBoundary i then (t.stepOver? i n.toNat).filter (· ≤ limit) else none

theorem forward?_eq_some_iff {t : Text} {i n limit j : Index} :
    t.forward? i n limit = some j ↔
      t.isBoundary i ∧ t.stepOver? i n.toNat = some j ∧ j ≤ limit := by
  unfold forward?
  split
  · next h => simp [h, Option.filter_eq_some_iff]
  · next h => simp [h]

theorem lt_of_forward? {t : Text} {i n limit j : Index} (h : t.forward? i n limit = some j)
    (hn : n ≠ 0) : i < j := by
  have h₁ := le_of_stepOver? (forward?_eq_some_iff.mp h).2.1
  have h₂ : n.toNat ≠ 0 := fun h0 => hn (UInt64.toNat_inj.mp h0)
  rw [UInt64.lt_iff_toNat_lt]
  omega

/-- The last boundary at or before a byte offset. -/
def boundaryUpTo (t : Text) : Nat → Nat
  | 0 => 0
  | n + 1 => if (⟨n + 1⟩ : String.Pos.Raw).isValid t.string then n + 1 else t.boundaryUpTo n

theorem boundaryUpTo_le (t : Text) : ∀ n, t.boundaryUpTo n ≤ n
  | 0 => Nat.le_refl 0
  | n + 1 => by
    rw [boundaryUpTo]
    split
    · exact Nat.le_refl _
    · exact Nat.le_succ_of_le (boundaryUpTo_le t n)

/-- **The last boundary at or before an index** — the end for an index past it, the start of the
character for one inside it. -/
def floor (t : Text) (i : Index) : Index := UInt64.ofNat (t.boundaryUpTo (min i t.size).toNat)

theorem utf8ByteSize_extract_lt (t : Text) (p q : t.string.Pos) :
    (t.string.extract p q).utf8ByteSize < UInt64.size := by
  have := t.size_lt
  rw [← String.size_toByteArray, String.toByteArray_extract, ByteArray.size_extract,
    String.size_toByteArray]
  omega

/-- The part from one boundary up to another. -/
def slice? (t : Text) (lo hi : Index) : Option Text :=
  match t.position? lo, t.position? hi with
  | some p, some q =>
    if lo ≤ hi then some ⟨t.string.extract p q, t.utf8ByteSize_extract_lt p q⟩ else none
  | _, _ => none

/-- **A part is there exactly between boundaries in order**, and holds the bytes between them. -/
theorem slice?_eq_some_iff {t d : Text} {lo hi : Index} :
    t.slice? lo hi = some d ↔ lo ≤ hi ∧ ∃ p q : t.string.Pos,
      p.offset = offset lo ∧ q.offset = offset hi ∧ d.string = t.string.extract p q := by
  constructor
  · intro hd
    unfold slice? at hd
    split at hd
    · next p q hp hq =>
      obtain ⟨hle, hd⟩ := Option.ite_none_right_eq_some.mp hd
      rw [← Option.some.inj hd]
      exact ⟨hle, p, q, (position?_eq_some_iff.mp hp), (position?_eq_some_iff.mp hq), rfl⟩
    · cases hd
  · rintro ⟨hle, p, q, hp, hq, hd⟩
    rw [slice?, position?_eq_some_iff.mpr hp, position?_eq_some_iff.mpr hq]
    exact (if_pos hle).trans (congrArg some (ext hd.symm))

/-- A text, its characters at the byte offsets where their encodings start. -/
instance : Input Text Char where
  size := size
  get? := get?
  forward? := forward?
  next := next
  floor := floor
  slice? := slice?
  toList t := t.string.toList
  lt_size_of_get?_eq_some := lt_size_of_get?
  lt_next := lt_next
  lt_of_forward?_eq_some := lt_of_forward?

end Text

end ForwardCursor
