import Std.Data.HashSet.Lemmas
import Std.Data.TreeSet.Lemmas
import ForwardCursor.Input.Sequence
import ForwardCursor.Input.Text

/-!
# Acceptor — anything that tells some elements from the others

A class of elements is given by listing them, by keeping them in a set, by the characters of a text,
or by the ends of a range.  Only the test matters: an acceptor is the Boolean function `accepts`.

Lists, arrays, sequences, strings and both kinds of set *list* elements, and accept what is equal to
one of them (`Lists`), whatever the order and however often it is there.  They are compared with
`==`, which need not be reflexive.  A range asks for both of its bounds, so a range whose ends are
in the wrong order accepts nothing (`accepts_rcc_eq_false`).
-/

namespace ForwardCursor

/-- **A class of elements, given by its test.** -/
class Acceptor (S : Type) (α : Type) where
  /-- Whether an element belongs. -/
  accepts : S → α → Bool

export Acceptor (accepts)

namespace Acceptor

variable {α : Type}

/-- The listed elements. -/
instance [BEq α] : Acceptor (List α) α where
  accepts s x := s.any (· == x)

/-- The elements of an array. -/
instance [BEq α] : Acceptor (Array α) α where
  accepts s x := s.any (· == x)

/-- The elements of a sequence. -/
instance [BEq α] : Acceptor (Sequence α) α where
  accepts s x := s.items.any (· == x)

/-- The characters of a string. -/
instance : Acceptor String Char where
  accepts s x := s.toList.any (· == x)

/-- The characters of a text. -/
instance : Acceptor Text Char where
  accepts t x := t.string.toList.any (· == x)

/-- The members of a set kept in order. -/
instance {cmp : α → α → Ordering} : Acceptor (Std.TreeSet α cmp) α where
  accepts s x := s.contains x

/-- The members of a hashed set. -/
instance [BEq α] [Hashable α] : Acceptor (Std.HashSet α) α where
  accepts s x := s.contains x

/-- The elements between two bounds, both included. -/
instance [LE α] [DecidableLE α] : Acceptor (Std.Rcc α) α where
  accepts r x := x ∈ r

/-- The elements between two bounds, the upper one left out. -/
instance [LE α] [LT α] [DecidableLE α] [DecidableLT α] : Acceptor (Std.Rco α) α where
  accepts r x := x ∈ r

/-! ## Classes that list elements -/

/-- **A class that lists elements** — it accepts what is equal to one of them. -/
def Lists {S : Type} [Acceptor S α] [BEq α] (s : S) (xs : List α) : Prop :=
  ∀ x : α, accepts s x = true ↔ ∃ y ∈ xs, (y == x) = true

section Lists

variable [BEq α] {x : α}

theorem lists_list (s : List α) : Lists s s := fun _ => List.any_eq_true

theorem lists_array (s : Array α) : Lists s s.toList := by
  intro x
  change s.any (· == x) = true ↔ _
  rw [← Array.any_toList, List.any_eq_true]

theorem lists_sequence (s : Sequence α) : Lists s (Input.toList s) := lists_array s.items

theorem lists_string (s : String) : Lists s s.toList := fun _ => List.any_eq_true

theorem lists_text (t : Text) : Lists t (Input.toList t) := lists_string t.string

theorem lists_treeSet {cmp : α → α → Ordering} [Std.LawfulBEqCmp cmp] [Std.TransCmp cmp]
    [PartialEquivBEq α] (s : Std.TreeSet α cmp) : Lists s s.toList := by
  intro x
  change s.contains x = true ↔ _
  rw [← Std.TreeSet.contains_toList, List.contains_iff_exists_mem_beq]
  simp only [BEq.comm]

theorem lists_hashSet [Hashable α] [EquivBEq α] [LawfulHashable α] (s : Std.HashSet α) :
    Lists s s.toList := by
  intro x
  change s.contains x = true ↔ _
  rw [← Std.HashSet.contains_toList, List.contains_iff_exists_mem_beq]
  simp only [BEq.comm]

variable {S : Type} [Acceptor S α] {s : S} {xs ys : List α}

/-- **Neither order nor number matters** to a class that lists elements. -/
theorem Lists.of_mem_iff (h : Lists s xs) (hmem : ∀ y, y ∈ ys ↔ y ∈ xs) : Lists s ys := by
  intro x
  simp only [h x, hmem]

/-- **Where `==` is equality**, the elements that are listed are those that are accepted. -/
theorem Lists.accepts_iff_mem [LawfulBEq α] (h : Lists s xs) :
    accepts s x = true ↔ x ∈ xs := by
  simp only [h x, beq_iff_eq, exists_eq_right]

end Lists

/-! ## Ranges -/

section Ranges

variable [LE α] [DecidableLE α] {a b x : α}

theorem accepts_rcc_iff : accepts (a ...= b) x = true ↔ a ≤ x ∧ x ≤ b := by
  change decide (x ∈ (a ...= b)) = true ↔ _
  rw [decide_eq_true_eq, Std.Rcc.mem_iff]

theorem accepts_rco_iff [LT α] [DecidableLT α] :
    accepts (a ...< b) x = true ↔ a ≤ x ∧ x < b := by
  change decide (x ∈ (a ...< b)) = true ↔ _
  rw [decide_eq_true_eq, Std.Rco.mem_iff]

variable [Trans (α := α) (· ≤ ·) (· ≤ ·) (· ≤ ·)]

/-- **Bounds in the wrong order** have nothing between them… -/
theorem accepts_rcc_eq_false (h : ¬ a ≤ b) : accepts (a ...= b) x = false := by
  rw [← Bool.not_eq_true, accepts_rcc_iff]
  exact fun hx => h (Std.le_trans hx.1 hx.2)

/-- …nor have equal bounds, if the upper one is left out. -/
theorem accepts_rco_eq_false [LT α] [DecidableLT α] [Std.LawfulOrderLT α] (h : ¬ a < b) :
    accepts (a ...< b) x = false := by
  rw [← Bool.not_eq_true, accepts_rco_iff]
  exact fun hx => h (Std.lt_of_le_of_lt hx.1 hx.2)

end Ranges

end Acceptor

end ForwardCursor
