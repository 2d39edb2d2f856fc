import ForwardCursor.Input.Text
import ForwardCursor.Proofs.Boundary

/-!
# Proofs/Boundary/Text — a text is a lawful input

The `k`-th character of a text starts behind the encodings of the `k` characters before it
(`toNat_start`), and `p.Splits t₁ t₂` of the string library says what stands on either side of a
position.  The laws are those of lists, read through the position between the first `k` characters
and the others.
-/

namespace ForwardCursor

/-- **The number of bytes characters are encoded in.** -/
def utf8Width : List Char → Nat
  | [] => 0
  | x :: cs => x.utf8Size + utf8Width cs

@[simp] theorem utf8Width_nil : utf8Width [] = 0 := rfl

@[simp] theorem utf8Width_cons (x : Char) (cs : List Char) :
    utf8Width (x :: cs) = x.utf8Size + utf8Width cs := rfl

@[simp] theorem utf8Width_append (cs ds : List Char) :
    utf8Width (cs ++ ds) = utf8Width cs + utf8Width ds := by
  induction cs with
  | nil => rw [List.nil_append, utf8Width_nil, Nat.zero_add]
  | cons x cs ih => rw [List.cons_append, utf8Width_cons, utf8Width_cons, ih, Nat.add_assoc]

theorem length_le_utf8Width (cs : List Char) : cs.length ≤ utf8Width cs := by
  induction cs with
  | nil => exact Nat.le_refl 0
  | cons x cs ih =>
    have := x.utf8Size_pos
    rw [List.length_cons, utf8Width_cons]
    omega

theorem utf8ByteSize_ofList (cs : List Char) : (String.ofList cs).utf8ByteSize = utf8Width cs := by
  induction cs with
  | nil => rfl
  | cons x cs ih =>
    rw [← List.singleton_append, String.ofList_append, String.utf8ByteSize_append, ih,
      ← String.singleton_eq_ofList, String.utf8ByteSize_singleton, List.singleton_append,
      utf8Width_cons]

theorem utf8ByteSize_eq_utf8Width (s : String) : s.utf8ByteSize = utf8Width s.toList := by
  rw [← utf8ByteSize_ofList, String.ofList_toList]

namespace Text

open Input

variable {t : Text} {i n limit j : Index} {k : Nat}

/-- **The number of bytes the first `k` characters are encoded in.** -/
def width (t : Text) (k : Nat) : Nat := utf8Width (t.string.toList.take k)

theorem width_succ {x : Char} (h : t.string.toList[k]? = some x) :
    t.width (k + 1) = t.width k + x.utf8Size := by
  rw [width, List.take_add_one, h, Option.toList_some, utf8Width_append, utf8Width_cons,
    utf8Width_nil, Nat.add_zero, width]

theorem width_of_length_le (h : t.string.toList.length ≤ k) :
    t.width k = t.string.utf8ByteSize := by
  rw [width, List.take_of_length_le h, utf8ByteSize_eq_utf8Width]

theorem width_le (t : Text) (k : Nat) : t.width k ≤ t.string.utf8ByteSize := by
  rw [utf8ByteSize_eq_utf8Width, ← List.take_append_drop k t.string.toList, utf8Width_append, width]
  exact Nat.le_add_right ..

theorem width_min_length (t : Text) (k : Nat) : t.width (min k (toList t).length) = t.width k :=
  congrArg utf8Width List.take_eq_take_min.symm

theorem width_add (t : Text) (k n : Nat) :
    t.width (k + n) = t.width k + utf8Width ((left t k).take n) := by
  rw [width, List.take_add, utf8Width_append, width]
  rfl

theorem width_add_length {cs ds : List Char} (h : left t k = cs ++ ds) :
    t.width (k + cs.length) = t.width k + utf8Width cs := by
  rw [t.width_add, h, List.take_left]

/-- **There is a position behind the first `k` characters.** -/
theorem exists_splits (t : Text) (k : Nat) : ∃ p : t.string.Pos,
    p.Splits (.ofList (t.string.toList.take k)) (.ofList (t.string.toList.drop k)) :=
  ⟨_, String.Pos.splits_ofEqAppend (by
    rw [← String.ofList_append, List.take_append_drop, String.ofList_toList])⟩

theorem offset_eq_of_splits {p : t.string.Pos} {t₂ : String} (hi : i.toNat = t.width k)
    (hp : p.Splits (.ofList (t.string.toList.take k)) t₂) : p.offset = offset i := by
  rw [hp.offset_eq_rawEndPos, String.Pos.Raw.ext_iff, String.byteIdx_rawEndPos,
    utf8ByteSize_ofList]
  exact hi.symm

/-- **The character behind the first `k`** is found where their encodings end. -/
theorem get?_eq_getElem? (hi : i.toNat = t.width k) : t.get? i = t.string.toList[k]? := by
  obtain ⟨p, hp⟩ := t.exists_splits k
  have hoffset := offset_eq_of_splits hi hp
  cases hk : t.string.toList[k]? with
  | some x =>
    obtain ⟨hlt, rfl⟩ := List.getElem?_eq_some_iff.mp hk
    rw [List.drop_eq_getElem_cons hlt, ← List.singleton_append, String.ofList_append,
      ← String.singleton_eq_ofList] at hp
    have hne : p ≠ t.string.endPos := hp.ne_endPos_of_singleton
    exact get?_eq_some_iff.mpr ⟨p, hne, hoffset, hp.next.get_eq_of_singleton⟩
  | none =>
    rw [List.drop_of_length_le (List.getElem?_eq_none_iff.mp hk)] at hp
    have hend : p = t.string.endPos := hp.eq_endPos_iff.mpr rfl
    refine Option.eq_none_iff_forall_ne_some.mpr ?_
    intro y hy
    obtain ⟨q, hq, hqo, -⟩ := get?_eq_some_iff.mp hy
    exact hq ((String.Pos.ext (hqo.trans hoffset.symm)).trans hend)

/-- **The `k`-th character starts where the encodings of those before it end.** -/
theorem toNat_start (t : Text) : ∀ k, (start t k).toNat = t.width k
  | 0 => by rw [width, List.take_zero]; rfl
  | k + 1 => by
    have ih := toNat_start t k
    have hget := get?_eq_getElem? ih
    change (t.next (start t k)).toNat = _
    rw [next]
    split
    · next x hx =>
      rw [toNat_add_utf8Size hx, ih, width_succ (hget.symm.trans hx)]
    · next hx =>
      have hlen := List.getElem?_eq_none_iff.mp (hget.symm.trans hx)
      rw [toNat_size, width_of_length_le (Nat.le_succ_of_le hlen)]

theorem start_eq_ofNat (t : Text) (k : Nat) : start t k = .ofNat (t.width k) := by
  rw [← UInt64.toNat_inj, toNat_start,
    Index.toNat_ofNat_of_lt (Nat.lt_of_le_of_lt (t.width_le k) t.size_lt)]

/-- **Behind characters a text starts with** is where their encodings end. -/
theorem start_of_append {cs ds : List Char} (h : toList t = cs ++ ds) :
    start t cs.length = .ofNat (utf8Width cs) := by
  have hlist : t.string.toList = cs ++ ds := h
  rw [start_eq_ofNat, width, hlist, List.take_left]

/-- **A boundary is the start of a character, or the end.** -/
theorem isBoundary_iff_exists_start : t.isBoundary i ↔ ∃ k, i = start t k := by
  rw [isBoundary_iff, String.Pos.Raw.isValid_iff_exists_take_toList]
  refine exists_congr fun k => ?_
  rw [utf8ByteSize_ofList, ← UInt64.toNat_inj, toNat_start]
  rfl

theorem isBoundary_start (t : Text) (k : Nat) : t.isBoundary (start t k) :=
  isBoundary_iff_exists_start.mpr ⟨k, rfl⟩

theorem eq_start_of_get? {x : Char} (h : t.get? i = some x) : ∃ k, i = start t k := by
  obtain ⟨p, -, hp, -⟩ := get?_eq_some_iff.mp h
  exact isBoundary_iff_exists_start.mp (isBoundary_iff.mpr (hp ▸ p.isValid))

/-! ## Moving forward -/

/-- **Stepping over `n` characters** leads from the start of the `k`-th to that of the `k + n`-th.
-/
theorem stepOver?_start (t : Text) : ∀ (n k : Nat) {j : Index}, k ≤ t.string.toList.length →
    (t.stepOver? (start t k) n = some j ↔ k + n ≤ t.string.toList.length ∧ j = start t (k + n))
  | 0, k, j, hk => by
    rw [stepOver?, Option.some.injEq, Nat.add_zero, eq_comm]
    exact (and_iff_right hk).symm
  | n + 1, k, j, hk => by
    have hget := get?_eq_getElem? (toNat_start t k)
    rw [stepOver?, hget]
    rcases Nat.lt_or_ge k t.string.toList.length with hlt | hge
    · have hx := List.getElem?_eq_getElem hlt
      have hnext : start t k + UInt64.ofNat t.string.toList[k].utf8Size = start t (k + 1) := by
        rw [← UInt64.toNat_inj, toNat_add_utf8Size (hget.trans hx), toNat_start, toNat_start,
          width_succ hx]
      rw [hx, Option.bind_some, hnext, stepOver?_start t n (k + 1) hlt, Nat.add_right_comm,
        Nat.add_assoc]
    · rw [List.getElem?_eq_none hge, Option.bind_none]
      simp only [reduceCtorEq, false_iff, not_and]
      omega

theorem start_min_length (t : Text) (k : Nat) :
    start t (min k t.string.toList.length) = start t k := by
  rw [← UInt64.toNat_inj, toNat_start, toNat_start]
  exact t.width_min_length k

theorem start_length (t : Text) : start t t.string.toList.length = t.size := by
  rw [← UInt64.toNat_inj, toNat_start, width_of_length_le (Nat.le_refl _), toNat_size]

theorem forward?_eq_some_iff_start : t.forward? i n limit = some j ↔
    ∃ k, k + n.toNat ≤ t.string.toList.length ∧ i = start t k ∧ j = start t (k + n.toNat) ∧
      j ≤ limit := by
  rw [forward?_eq_some_iff]
  constructor
  · rintro ⟨hi, hstep, hlimit⟩
    obtain ⟨k, rfl⟩ := isBoundary_iff_exists_start.mp hi
    rw [← start_min_length, stepOver?_start t _ _ (Nat.min_le_right ..)] at hstep
    exact ⟨_, hstep.1, (start_min_length t k).symm, hstep.2, hlimit⟩
  · rintro ⟨k, hk, rfl, rfl, hlimit⟩
    exact ⟨isBoundary_start t k, (stepOver?_start t _ _ (by omega)).mpr ⟨hk, rfl⟩, hlimit⟩

/-! ## The last boundary -/

theorem isValid_boundaryUpTo (t : Text) :
    ∀ n, (⟨t.boundaryUpTo n⟩ : String.Pos.Raw).IsValid t.string
  | 0 => String.Pos.Raw.isValid_zero
  | n + 1 => by
    rw [boundaryUpTo]
    split
    · next h => exact String.Pos.Raw.isValid_eq_true_iff.mp h
    · exact isValid_boundaryUpTo t n

theorem le_boundaryUpTo (t : Text) {m : Nat} (hm : (⟨m⟩ : String.Pos.Raw).IsValid t.string) :
    ∀ n, m ≤ n → m ≤ t.boundaryUpTo n
  | 0, h => h
  | n + 1, h => by
    rw [boundaryUpTo]
    split
    · exact h
    · next hn =>
      refine le_boundaryUpTo t hm n (Nat.le_of_lt_succ (Nat.lt_of_le_of_ne h ?_))
      rintro rfl
      exact hn (String.Pos.Raw.isValid_eq_true_iff.mpr hm)

theorem toNat_floor (t : Text) (i : Index) :
    (t.floor i).toNat = t.boundaryUpTo (min i.toNat t.string.utf8ByteSize) := by
  have hle := t.boundaryUpTo_le (min i.toNat t.string.utf8ByteSize)
  have hsize := t.size_lt
  rw [floor, Index.toNat_min, toNat_size, Index.toNat_ofNat_of_lt (by omega)]

theorem isBoundary_floor (t : Text) (i : Index) : t.isBoundary (t.floor i) := by
  rw [isBoundary_iff, offset, toNat_floor]
  exact isValid_boundaryUpTo t _

theorem start_le_floor_iff : start t k ≤ t.floor i ↔ start t k ≤ i := by
  have hle := t.boundaryUpTo_le (min i.toNat t.string.utf8ByteSize)
  rw [UInt64.le_iff_toNat_le, UInt64.le_iff_toNat_le, toNat_floor]
  refine ⟨fun h => by omega, ?_⟩
  intro h
  have hsize := t.width_le k
  rw [← toNat_start] at hsize
  exact le_boundaryUpTo t (isBoundary_iff.mp (isBoundary_start t k)) _ (Nat.le_min.mpr ⟨h, hsize⟩)

/-! ## Parts -/

/-- **The characters between two positions**, counted from the start. -/
theorem toList_extract {p q : t.string.Pos} {l : Nat} (hkl : k ≤ l)
    (hp : p.Splits (.ofList (t.string.toList.take k)) (.ofList (t.string.toList.drop k)))
    (hq : q.Splits (.ofList (t.string.toList.take l)) (.ofList (t.string.toList.drop l))) :
    (t.string.extract p q).toList = (t.string.toList.drop k).take (l - k) := by
  have hdrop : t.string.toList.drop k =
      (t.string.toList.drop k).take (l - k) ++ t.string.toList.drop l := by
    rw [← Nat.add_sub_of_le hkl, ← List.drop_drop, Nat.add_sub_of_le hkl, List.take_append_drop]
  have htake : t.string.toList.take l =
      t.string.toList.take k ++ (t.string.toList.drop k).take (l - k) := by
    rw [← Nat.add_sub_of_le hkl, List.take_add, Nat.add_sub_of_le hkl]
  rw [hdrop, String.ofList_append] at hp
  rw [htake, String.ofList_append] at hq
  obtain ⟨hle, hcopy⟩ := String.copy_slice_eq_iff_splits.mpr ⟨_, _, hp, hq⟩
  rw [String.extract_eq_copy_slice p q hle, hcopy, String.toList_ofList]

theorem start_le_start_of_le {l : Nat} (h : k ≤ l) : start t k ≤ start t l := by
  rw [UInt64.le_iff_toNat_le, toNat_start, toNat_start, width, width, ← Nat.add_sub_of_le h,
    List.take_add, utf8Width_append]
  exact Nat.le_add_right ..

theorem slice?_start_start {l : Nat} (hkl : k ≤ l) :
    ∃ d, t.slice? (start t k) (start t l) = some d ∧
      d.string.toList = (t.string.toList.drop k).take (l - k) := by
  obtain ⟨p, hp⟩ := t.exists_splits k
  obtain ⟨q, hq⟩ := t.exists_splits l
  refine ⟨⟨t.string.extract p q, t.utf8ByteSize_extract_lt p q⟩, ?_, toList_extract hkl hp hq⟩
  exact slice?_eq_some_iff.mpr ⟨start_le_start_of_le hkl, p, q,
    offset_eq_of_splits (toNat_start t k) hp, offset_eq_of_splits (toNat_start t l) hq, rfl⟩

theorem start_of_slice? {d : Text} {lo hi : Index} (h : t.slice? lo hi = some d) :
    ∃ k l, k ≤ l ∧ l ≤ t.string.toList.length ∧ lo = start t k ∧ hi = start t l := by
  obtain ⟨hle, p, q, hp, hq, -⟩ := slice?_eq_some_iff.mp h
  obtain ⟨k, rfl⟩ := isBoundary_iff_exists_start.mp (isBoundary_iff.mpr (hp ▸ p.isValid))
  obtain ⟨l, rfl⟩ := isBoundary_iff_exists_start.mp (isBoundary_iff.mpr (hq ▸ q.isValid))
  rw [← start_min_length t k, ← start_min_length t l] at hle ⊢
  rcases Nat.le_total (min k t.string.toList.length) (min l t.string.toList.length) with hkl | hlk
  · exact ⟨_, _, hkl, Nat.min_le_right .., rfl, rfl⟩
  · -- indices in order whose counts are not are the same index
    have heq := UInt64.le_antisymm hle (start_le_start_of_le hlk)
    exact ⟨_, _, Nat.le_refl _, Nat.min_le_right .., heq, rfl⟩

/-- **A text is a lawful input.** -/
instance : LawfulInput Text where
  get?_start t k := get?_eq_getElem? (toNat_start t k)
  eq_start_of_get? := eq_start_of_get?
  start_length := start_length
  next_size t := by
    have hnone : t.get? t.size = none := by
      rw [← start_length, get?_eq_getElem? (toNat_start t _), List.getElem?_eq_none (Nat.le_refl _)]
    change t.next t.size = t.size
    rw [next, hnone]
  forward?_eq_some_iff := forward?_eq_some_iff_start
  floor_eq_start t i := isBoundary_iff_exists_start.mp (t.isBoundary_floor i)
  start_le_floor_iff := start_le_floor_iff
  slice?_start_start hkl _ := slice?_start_start hkl
  start_of_slice? := start_of_slice?
  ext_toList h := ext (String.toList_inj.mp h)

/-- **A text followed by more** holds its characters, then those behind it. -/
theorem toList_of_append {e : Text} {more : String} (h : e.string = t.string ++ more) :
    toList e = toList t ++ more.toList := by
  change e.string.toList = t.string.toList ++ more.toList
  rw [h, String.toList_append]

theorem boundary_of_isBoundary (h : t.isBoundary i = true) : Boundary t i := by
  obtain ⟨k, rfl⟩ := isBoundary_iff_exists_start.mp h
  exact boundary_start t k

theorem isBoundary_iff_boundary : t.isBoundary i = true ↔ Boundary t i := by
  refine ⟨boundary_of_isBoundary, ?_⟩
  rintro ⟨k, -, rfl⟩
  exact isBoundary_start t k

end Text

end ForwardCursor
