import ForwardCursor.Character
import ForwardCursor.Proofs.Reading
import Mathlib.Data.List.DropRight

/-!
# Proofs/Trimming — a text without the blanks at its ends

`Trimmed body text` says what it is for `text` to be what is left of `body` when the blanks at its
ends are taken off: blanks and nothing else stand before and behind it, and it neither starts nor
ends with one.  It does not say how such a text is found.  There is one and no other, and `trimmed`
finds it (`trimmed_eq_iff`).
-/

namespace ForwardCursor.Character

/-- **A text without the blanks at its ends.** -/
structure Trimmed (body text : List Char) : Prop where
  /-- What is left out are blanks, before it and behind it. -/
  parts : ∃ pre post, body = pre ++ text ++ post ∧ (∀ c ∈ pre, isBlank c = true) ∧
    ∀ c ∈ post, isBlank c = true
  /-- It does not start with a blank. -/
  head : ∀ c ∈ text.head?, isBlank c = false
  /-- It does not end with a blank. -/
  last : ∀ c ∈ text.getLast?, isBlank c = false

/-- **A text that is trimmed** has lost the blanks at its ends and nothing else. -/
theorem trimmed_trimmed (body : List Char) : Trimmed body (trimmed body) := by
  have hback : trimmed body = (body.dropWhile isBlank).rdropWhile isBlank := rfl
  refine ⟨⟨body.takeWhile isBlank, (body.dropWhile isBlank).rtakeWhile isBlank, ?_,
    fun c hc => List.mem_takeWhile_imp hc, fun c hc => List.mem_rtakeWhile_imp hc⟩, ?_, ?_⟩
  · rw [hback, List.append_assoc, List.rdropWhile_append_rtakeWhile,
      List.takeWhile_append_dropWhile]
  · -- what is taken off behind leaves the first character where it is
    intro c hc
    obtain ⟨post, hpost⟩ : trimmed body <+: body.dropWhile isBlank := List.rdropWhile_prefix ..
    refine of_mem_head?_dropWhile isBlank body c ?_
    rw [← hpost, List.head?_append, Option.mem_def.mp hc]
    rfl
  · intro c hc
    rw [trimmed, List.getLast?_reverse] at hc
    exact of_mem_head?_dropWhile isBlank _ c hc

/-- **There is no other text** without the blanks at the ends. -/
theorem Trimmed.trimmed_eq {body text : List Char} (h : Trimmed body text) :
    trimmed body = text := by
  obtain ⟨⟨pre, post, rfl, hpre, hpost⟩, hhead, hlast⟩ := h
  rcases text with _ | ⟨x, xs⟩
  · -- blanks alone leave nothing
    have hall : ∀ c ∈ pre ++ [] ++ post, isBlank c = true := by
      rw [List.append_nil]
      exact List.forall_mem_append.mpr ⟨hpre, hpost⟩
    rw [trimmed, List.dropWhile_eq_nil_iff.mpr hall]
    rfl
  · have hfront : (pre ++ (x :: xs ++ post)).dropWhile isBlank = x :: xs ++ post :=
      dropWhile_append_of_head? hpre hhead
    have hback : (post.reverse ++ (x :: xs).reverse).dropWhile isBlank = (x :: xs).reverse := by
      refine dropWhile_append_of_head? (fun c hc => hpost c (List.mem_reverse.mp hc)) ?_
      rw [List.head?_reverse]
      exact hlast
    rw [trimmed, List.append_assoc, hfront, List.reverse_append, hback, List.reverse_reverse]

/-- **Trimming a text** takes off the blanks at its ends, and nothing else. -/
theorem trimmed_eq_iff {body text : List Char} : trimmed body = text ↔ Trimmed body text :=
  ⟨fun h => h ▸ trimmed_trimmed body, Trimmed.trimmed_eq⟩

end ForwardCursor.Character
