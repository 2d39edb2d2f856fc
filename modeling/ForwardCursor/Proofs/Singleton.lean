import ForwardCursor.Proofs.Safety
import Mathlib

/-!
# Proofs/Singleton — an element, the sequence of it, and the class of it

An element can be asked for by itself, as a sequence of one, or as the one member of a class.  The
three are looked for in different ways: by one comparison, by comparing a sequence element by
element, by a search for the first occurrence, by a run of what is not a member.  They come to the
same, whatever it is for two elements to be equal (`everywhere_takesAsOne`).

An element that equals none, not even itself, makes no difference.  For a class equality has to be
symmetric, because a class puts its member on the left of `==` and a cursor puts it on the right.
-/

namespace ForwardCursor

variable {S α : Type} [BEq α]

/-- **A class of one** — it accepts what its member equals. -/
def Acceptor.OnlyAccepts [Acceptor S α] (one : S) (y : α) : Prop :=
  ∀ x, accepts one x = (y == x)

/-! ## Classes that list one element -/

section Listed

open Acceptor

theorem onlyAccepts_list (y : α) : OnlyAccepts [y] y := fun _ => Bool.or_false _

theorem onlyAccepts_array (y : α) : OnlyAccepts #[y] y := fun x => by
  change #[y].any (· == x) = (y == x)
  rw [← Array.any_toList]
  exact Bool.or_false _

theorem onlyAccepts_sequence (y : α) :
    OnlyAccepts (⟨#[y], (by decide : 1 < UInt64.size)⟩ : Sequence α) y := onlyAccepts_array y

theorem onlyAccepts_string (y : Char) : OnlyAccepts (String.singleton y) y := fun x => by
  change (String.singleton y).toList.any (· == x) = (y == x)
  rw [String.toList_singleton]
  exact Bool.or_false _

end Listed

/-! ## Moves on lists -/

namespace Move

/-- **Everything before a class of one** is everything before its member. -/
theorem passed_upToClass_one [Acceptor S α] (hsymm : ∀ x y : α, (x == y) = true → (y == x) = true)
    {one : S} {y : α} (hone : Acceptor.OnlyAccepts one y) (xs : List α) :
    passed (.upToClass one) xs = passed (.upTo y) xs := by
  have htest : (fun x => !accepts one x) = (· != y) := by
    funext x
    rw [hone x, bne, Bool.eq_iff_iff.mpr ⟨hsymm y x, hsymm x y⟩]
  rw [upToClass, passed, passed, htest]

/-- **Through an element** is up to it, and past it if it is there. -/
theorem passed_through (y : α) (xs : List α) :
    passed (.through y) xs =
      passed (.upTo y) xs + passed (.element y) (xs.drop (passed (.upTo y) xs)) := by
  have hlength := congrArg List.length (List.takeWhile_append_dropWhile (p := (· != y)) (l := xs))
  have hstop := of_mem_head?_dropWhile (· != y) xs
  have hup : passed (.upTo y) xs = (xs.takeWhile (· != y)).length := rfl
  have hthrough : passed (.through y) xs =
      min ((xs.takeWhile (· != y)).length + 1) xs.length := rfl
  rw [hup, hthrough, drop_length_takeWhile, ← hlength, List.length_append]
  rcases hdrop : xs.dropWhile (· != y) with _ | ⟨z, zs⟩
  · exact Nat.min_eq_right (Nat.le_succ _)
  · have hz : (z == y) = true := by
      rw [hdrop] at hstop
      simpa [bne] using hstop z rfl
    rw [passed, List.head?_cons, Option.any_some, if_pos hz, List.length_cons]
    omega

end Move

open Input

namespace Cursor

variable {C : Type} [Input C α]

/-- **Two moves that come to the same** — they lead to the same place, and what is scanned by them
is the same part. -/
structure Interchangeable (c : Cursor C) (m m' : Move α) : Prop where
  /-- They lead to the same place. -/
  cursor_skip : (c.skip m).cursor = (c.skip m').cursor
  /-- They scan the same part. -/
  scan : ∃ o u, c.scan m = .ok o ∧ c.scan m' = .ok u ∧ o.value = u.value

/-- **An expected element and an expected part that tell the same** — the part holds the element, or
neither is there, for the same cause. -/
def TellsSame : Except Unmet α → Except Unmet C → Prop
  | .ok x, .ok span => toList span = [x]
  | .error cause, .error cause' => cause = cause'
  | _, _ => False

/-- **A cursor for which an element, the sequence and the class of it are one.** -/
structure TakesAsOne (c : Cursor C) (y : α) : Prop where
  /-- An element and the sequence of it, if they are next. -/
  sequence : c.Interchangeable (.element y) (.sequence [y])
  /-- An element and the sequence of it, if they have to be next. -/
  expect : ∃ o, c.expectSequence [y] = .ok o ∧ o.cursor = (c.expectElement y).cursor ∧
    TellsSame (c.expectElement y).value o.value
  /-- Everything before an element, and before the sequence of it. -/
  upToSequence : c.Interchangeable (.upTo y) (.upToSequence [y])
  /-- Everything before an element, and before a class of which it is the one member. -/
  upToClass {S : Type} [Acceptor S α] {one : S} : Acceptor.OnlyAccepts one y →
    c.Interchangeable (.upTo y) (.upToClass one)
  /-- Everything through an element, and everything before it followed by the element. -/
  through : c.MakeUp (.upTo y) (.element y) (.through y)

variable [LawfulInput C] {c : C} {k : Nat}

/-- **Moves that pass as many elements** come to the same. -/
theorem interchangeable_of_passed_eq {m m' : Move α}
    (h : m'.passed (left c k) = m.passed (left c k)) : (before c k).Interchangeable m m' where
  cursor_skip := by rw [skip_before, skip_before, h]
  scan := ⟨_, _, scan_before c k m, scan_before c k m', by
    rw [Outcome.value_map, Outcome.value_map, h]⟩

theorem expectSequence_singleton (c : C) (k : Nat) (y : α) :
    ∃ o, (before c k).expectSequence [y] = .ok o ∧
      o.cursor = ((before c k).expectElement y).cursor ∧
      TellsSame ((before c k).expectElement y).value o.value := by
  refine ⟨_, expectSequence_before c [y] k, ?_⟩
  rcases hleft : left c k with _ | ⟨x, xs⟩
  · rw [expectElement_of_nil y hleft, if_neg (not_startsWith_cons_nil y [])]
    exact ⟨rfl, rfl⟩
  · rw [expectElement_of_cons y hleft]
    simp only [startsWith_singleton_cons]
    split
    · refine ⟨rfl, ?_⟩
      change toList (part c k (k + 1)) = [x]
      rw [toList_part_add, hleft, List.take_succ_cons, List.take_zero]
    · next hxy =>
      refine ⟨rfl, ?_⟩
      change Unmet.mismatch (start c k) = shortfall [y] (x :: xs) fun j => start c (k + j)
      rw [shortfall, agreement_cons_of_ne (Bool.not_eq_true _ ▸ hxy), if_neg (by simp)]
      rfl

theorem takesAsOne_before (hsymm : ∀ x y : α, (x == y) = true → (y == x) = true) (c : C) (k : Nat)
    (y : α) : (before c k).TakesAsOne y where
  sequence := interchangeable_of_passed_eq (Move.passed_sequence_singleton y _)
  expect := expectSequence_singleton c k y
  upToSequence := interchangeable_of_passed_eq (Move.passed_upToSequence_singleton y _)
  upToClass hone := interchangeable_of_passed_eq (Move.passed_upToClass_one hsymm hone _)
  through := makeUp_of_passed (Move.passed_through y _)

end Cursor

/-! ## All together -/

/-- **An element, the sequence of it, and the class of it are one.**  Wherever requests lead on a
sequence of elements whose equality is symmetric, if not reflexive, and wherever they lead on a
text, it makes no difference which of them is passed, expected or looked for; and a list, an array,
a sequence and a string of one are such classes. -/
theorem everywhere_takesAsOne :
    (∀ (α : Type) [BEq α], (∀ x y : α, (x == y) = true → (y == x) = true) →
      ∀ (s : Sequence α) (y : α), Cursor.Everywhere s fun c => c.TakesAsOne y) ∧
    (∀ (t : Text) (y : Char), Cursor.Everywhere t fun c => c.TakesAsOne y) ∧
    (∀ (α : Type) [BEq α] (y : α), Acceptor.OnlyAccepts [y] y ∧ Acceptor.OnlyAccepts #[y] y ∧
      Acceptor.OnlyAccepts (⟨#[y], (by decide : 1 < UInt64.size)⟩ : Sequence α) y) ∧
    ∀ y : Char, Acceptor.OnlyAccepts (String.singleton y) y :=
  ⟨fun _ _ hsymm s y => Cursor.everywhere_of_before fun k _ => Cursor.takesAsOne_before hsymm s k y,
    fun t y => Cursor.everywhere_of_before fun k _ =>
      Cursor.takesAsOne_before (fun _ _ => BEq.symm) t k y,
    fun _ _ y => ⟨onlyAccepts_list y, onlyAccepts_array y, onlyAccepts_sequence y⟩,
    onlyAccepts_string⟩

/-- Among floating-point numbers equality is symmetric, and what is no number does not equal itself;
wherever requests lead on three of them, with what is no number in the middle, it is missed alike by
itself, as a sequence and as a class. -/
theorem everywhere_takesAsOne_no_number :
    (∀ x y : Float, (x == y) = true → (y == x) = true) ∧
      ((0.0 / 0.0 : Float) == 0.0 / 0.0) = false ∧
      Cursor.Everywhere (⟨#[1.5, 0.0 / 0.0, -0.0], (by decide : 3 < UInt64.size)⟩ : Sequence Float)
        fun c => c.TakesAsOne (0.0 / 0.0) :=
  ⟨fun _ _ => BEq.symm, by decide, everywhere_takesAsOne.1 Float (fun _ _ => BEq.symm) _ _⟩

end ForwardCursor
