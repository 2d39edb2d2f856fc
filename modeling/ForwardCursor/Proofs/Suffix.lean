import ForwardCursor.Proofs.Boundary.Sequence
import ForwardCursor.Proofs.Boundary.Text
import ForwardCursor.Proofs.Lockstep

/-!
# Proofs/Suffix — what was passed has no influence

What an input holds behind a boundary is an input by itself, in which every element starts earlier
by the index of the boundary (`Input.Suffix`).  A cursor at the boundary and one at the start of the
suffix, asked the same, answer the same, and whatever index the first one gives is that of the
second, moved on (`askAll_suffix`).

Nothing else about the kind of an input is used: a sequence is shorter by the elements in front, a
text by the bytes they are encoded in.
-/

namespace ForwardCursor

namespace Request

variable {α : Type}

/-- Whether a request stays behind an index: it goes to no index by itself, and asks for nothing
from before it.  A mark taken behind the index lies behind it. -/
def staysBehind (p : Index) : Request α → Bool
  | .moveTo _ | .returnTo _ => false
  | .since m => p ≤ m.position
  | _ => true

/-- **A request put to the suffix behind an index** — the same, a mark being counted from there. -/
def onSuffix (p : Index) : Request α → Request α
  | .since m => .since ⟨m.position - p⟩
  | r => r

/-- **A request and the one put to the suffix** are alike. -/
theorem alike_onSuffix {p : Index} {r : Request α} (h : r.staysBehind p = true) :
    r.Alike (· = ·) (fun i j => i.toNat = j.toNat + p.toNat) (r.onSuffix p) := by
  cases r with
  | moveTo i | returnTo m => cases h
  | since m =>
    have hle : p ≤ m.position := of_decide_eq_true h
    refine .since ?_
    rw [UInt64.toNat_sub_of_le _ _ hle, Nat.sub_add_cancel (UInt64.le_iff_toNat_le.mp hle)]
  | position => exact .position
  | size => exact .size
  | atEnd => exact .atEnd
  | current => exact .current
  | peek n => exact .peek n
  | ahead n => exact .ahead n
  | rest => exact .rest
  | startsWith ys => exact .startsWith (forall₂_eq_refl ys)
  | mark => exact .mark
  | describe => exact .describe
  | advance => exact .advance
  | skip m => exact .skip m.alike_refl
  | scan m => exact .scan m.alike_refl
  | scanOne => exact .scanOne
  | expect e => exact .expect e.alike_refl

end Request

namespace Input

variable {C α : Type} [Input C α]

/-- **The suffix of an input behind its first `k` elements** — the elements that are left, each
starting earlier by where the first of them starts. -/
structure Suffix (c d : C) (k : Nat) : Prop where
  /-- There are `k` elements in front. -/
  le_length : k ≤ (toList c).length
  /-- The suffix holds what is left behind them. -/
  elements : toList d = left c k
  /-- Its elements start as far behind its start as they do behind the boundary. -/
  toNat_start (j : Nat) : (start c (k + j)).toNat = (start d j).toNat + (start c k).toNat

namespace Suffix

variable {c d : C} {k : Nat} (h : Suffix c d k)

include h

theorem length_eq : (toList c).length = k + (toList d).length := by
  rw [h.elements, length_left, Nat.add_sub_of_le h.le_length]

variable [LawfulInput C]

/-- **As many elements end at or before an index behind the boundary** as the `k` in front and those
of the suffix. -/
theorem countUpTo_eq {i j : Index} (hij : i.toNat = j.toNat + (start c k).toNat) :
    countUpTo c i = k + countUpTo d j := by
  have hfront : ∀ l ∈ List.range k, decide (start c (l + 1) ≤ i) = true := fun l hl => by
    have hle := UInt64.le_iff_toNat_le.mp
      (start_le_start (c := c) (show l + 1 ≤ k from List.mem_range.mp hl))
    rw [decide_eq_true_eq, UInt64.le_iff_toNat_le]
    omega
  have hback : ∀ l ∈ List.range (toList d).length,
      decide (start c (k + l + 1) ≤ i) = true ↔ decide (start d (l + 1) ≤ j) = true :=
    fun l _ => by
      rw [decide_eq_true_eq, decide_eq_true_eq, UInt64.le_iff_toNat_le, UInt64.le_iff_toNat_le,
        Nat.add_assoc, h.toNat_start]
      omega
  rw [countUpTo, h.length_eq, List.range_add, List.countP_append, List.countP_map,
    List.countP_eq_length.mpr hfront, List.length_range]
  exact congrArg (k + ·) (List.countP_congr hback)

/-- **An input runs parallel to its suffix.** -/
theorem parallel [BEq α] : Parallel (· = ·) (fun i j => i.toNat = j.toNat + (start c k).toNat)
    (fun i j => i.toNat = j.toNat + (start c k).toNat) c d k where
  le_length := h.le_length
  elements := by
    rw [h.elements]
    exact forall₂_eq_refl _
  eq := alikeEq_refl
  start := h.toNat_start
  countUpTo := h.countUpTo_eq

end Suffix

end Input

/-! ## Both kinds of input have suffixes -/

open Input

theorem Sequence.suffix {α : Type} {s d : Sequence α} {k : Nat} (hk : k ≤ s.items.size)
    (hd : toList d = left s k) : Suffix s d k where
  le_length := hk
  elements := hd
  toNat_start j := by
    have hsize : d.items.size = s.items.size - k := by
      rw [← length_toList, hd, length_left, length_toList]
    rw [toNat_start, toNat_start, toNat_start, hsize]
    omega

theorem Text.suffix {t d : Text} {k : Nat} (hk : k ≤ (toList t).length)
    (hd : toList d = left t k) : Suffix t d k where
  le_length := hk
  elements := hd
  toNat_start j := by
    have hwidth : d.width j = utf8Width ((left t k).take j) := by rw [← hd]; rfl
    rw [toNat_start, toNat_start, toNat_start, hwidth, width_add, Nat.add_comm]

namespace Cursor

variable {C α : Type} [Input C α] [BEq α]

/-- **A run for which what was passed has no influence** — what is left behind an index is an input,
and the run from the index comes to the same on it from its start, every index being smaller by the
first one. -/
def Forgets (c : C) (p : Index) (rs : List (Request α)) : Prop :=
  ∃ d os us, slice? c p (Input.size c) = some d ∧ (Cursor.mk c p).askAll rs = .ok os ∧
    (ofInput d).askAll (rs.map (Request.onSuffix p)) = .ok us ∧
    Lockstep (Outcome.Alike (· = ·) fun i j => i.toNat = j.toNat + p.toNat) rs os us

theorem forgets_of_suffix [LawfulInput C] {c : C} {k : Nat} {rs : List (Request α)}
    (h : Suffix c (part c k (toList c).length) k)
    (hrs : ∀ r ∈ rs, r.staysBehind (start c k) = true) : Forgets c (start c k) rs := by
  have halike : List.Forall₂ (Request.Alike (· = ·)
      fun i j => i.toNat = j.toNat + (start c k).toNat) rs
      (rs.map (Request.onSuffix (start c k))) := by
    rw [List.forall₂_map_right_iff, List.forall₂_same]
    exact fun r hr => Request.alike_onSuffix (hrs r hr)
  obtain ⟨os, us, hos, hus, hrun⟩ := h.parallel.askAll halike (Nat.zero_le _)
  have hslice := slice?_start_eq_part c h.le_length
  rw [LawfulInput.start_length] at hslice
  exact ⟨_, os, us, hslice, hos, hus, hrun⟩

end Cursor

/-- **What was passed has no influence.**  From a valid index of a sequence or a text, a run of
requests that stays behind it comes to the same as from the start of what is left there: the same
elements, answers, parts, questions put to predicates and failures, and the indices of positions,
failures and events smaller by the one where the run started. -/
theorem askAll_suffix :
    (∀ (α : Type) [BEq α] (s : Sequence α) (p : Index) (rs : List (Request α)), p ≤ s.size →
      (∀ r ∈ rs, r.staysBehind p = true) → Cursor.Forgets s p rs) ∧
    (∀ (t : Text) (p : Index) (rs : List (Request Char)), t.isBoundary p = true →
      (∀ r ∈ rs, r.staysBehind p = true) → Cursor.Forgets t p rs) := by
  constructor
  · intro α _ s p rs hp hrs
    obtain ⟨k, hk, rfl⟩ := Sequence.boundary_of_le_size hp
    exact Cursor.forgets_of_suffix (Sequence.suffix hk (toList_part_length hk)) hrs
  · intro t p rs hp hrs
    obtain ⟨k, hk, rfl⟩ := Text.boundary_of_isBoundary hp
    exact Cursor.forgets_of_suffix (Text.suffix hk (toList_part_length hk)) hrs

/-- Behind the accent of `é/λx` a run with a mark of its own, a failure inside a sequence and a
question beyond the end has forgotten the accent; and behind one number, a count that is too much
for an index there, and not at the start of what is left, still leads to the end. -/
theorem askAll_suffix_behind_accent :
    (Text.isBoundary ⟨"é/λx", by decide⟩ 2 = true ∧
      Cursor.Forgets (⟨"é/λx", by decide⟩ : Text) 2
        [.skip (.upTo 'λ'), .expect (.sequence ['λ', 'y']), .since ⟨2⟩, .peek 2]) ∧
    ((1 : Index) ≤ Sequence.size (⟨#[7, 8, 9], by decide⟩ : Sequence Nat) ∧
      Cursor.Forgets (⟨#[7, 8, 9], by decide⟩ : Sequence Nat) 1
        [.advance, .mark, .scan (.count 18446744073709551615), .since ⟨2⟩]) := by
  have hboundary : Text.isBoundary ⟨"é/λx", by decide⟩ 2 = true := by decide +kernel
  have hle : (1 : Index) ≤ Sequence.size (⟨#[7, 8, 9], by decide⟩ : Sequence Nat) := by decide
  exact ⟨⟨hboundary, askAll_suffix.2 _ _ _ hboundary (by decide)⟩,
    hle, askAll_suffix.1 _ _ _ _ hle (by decide)⟩

end ForwardCursor
