import ForwardCursor.Proofs.Boundary.Sequence
import ForwardCursor.Proofs.Boundary.Text
import ForwardCursor.Proofs.Passage

/-!
# Proofs/Safety — no use of a cursor goes wrong

`ask_before` says what one request can do to a cursor on a boundary: it comes to an end, on a
boundary, further on unless it is a `moveTo` or `returnTo`, and in place if it only looks.
`askAll_before` carries this through a run of requests, whatever they are and in whatever order.
-/

namespace ForwardCursor

namespace Request

variable {α : Type}

/-- Whether a request may take the cursor back. -/
def mayGoBack : Request α → Bool
  | .moveTo _ | .returnTo _ => true
  | _ => false

/-- Whether a request looks, and leaves the cursor where it is. -/
def looks : Request α → Bool
  | .moveTo _ | .returnTo _ | .advance | .skip _ | .scan _ | .scanOne | .expect _ => false
  | _ => true

end Request

namespace Cursor

open Input

variable {C α : Type}

/-- **A run that keeps its place** — each outcome is a cursor on the same input at a valid index,
not further back unless the request may go back, and the same cursor if the request only looks. -/
inductive KeepsPlace (valid : Index → Prop) :
    Cursor C → List (Request α) → List (Outcome C α (Answer C α)) → Prop
  /-- A run of no requests. -/
  | nil {c : Cursor C} : KeepsPlace valid c [] []
  /-- A request before a run. -/
  | cons {c : Cursor C} {r : Request α} {rs : List (Request α)} {o : Outcome C α (Answer C α)}
      {os : List (Outcome C α (Answer C α))} :
      o.cursor.input = c.input → valid o.cursor.position →
      (r.mayGoBack = false → c.position ≤ o.cursor.position) →
      (r.looks = true → o.cursor = c) →
      KeepsPlace valid o.cursor rs os → KeepsPlace valid c (r :: rs) (o :: os)

theorem KeepsPlace.mono {valid valid' : Index → Prop} {c : Cursor C} {rs : List (Request α)}
    {os : List (Outcome C α (Answer C α))} (himp : ∀ i, valid i → valid' i)
    (h : KeepsPlace valid c rs os) : KeepsPlace valid' c rs os := by
  induction h with
  | nil => exact .nil
  | cons hin hvalid hback hlook _ ih => exact .cons hin (himp _ hvalid) hback hlook ih

/-- **The cursor a run ends with** is on the input it started on, at a valid index. -/
theorem KeepsPlace.afterAll {valid : Index → Prop} {c : Cursor C} {rs : List (Request α)}
    {os : List (Outcome C α (Answer C α))} (h : KeepsPlace valid c rs os)
    (hc : valid c.position) :
    (c.afterAll os).input = c.input ∧ valid (c.afterAll os).position := by
  induction h with
  | nil => exact ⟨rfl, hc⟩
  | cons hin hvalid _ _ _ ih =>
    obtain ⟨hinput, hend⟩ := ih hvalid
    exact ⟨hinput.trans hin, hend⟩

variable [Input C α] [BEq α]

/-- **Wherever requests lead** from the start of an input, something holds of the cursor. -/
def Everywhere (c : C) (P : Cursor C → Prop) : Prop :=
  ∀ rs : List (Request α), ∃ os, (ofInput c).askAll rs = .ok os ∧ P ((ofInput c).afterAll os)

variable [LawfulInput C]

/-- **One request of a cursor on a boundary** comes to an end on a boundary. -/
theorem ask_before (c : C) {k : Nat} (hk : k ≤ (toList c).length) (r : Request α) :
    ∃ o l, (before c k).ask r = .ok o ∧ o.cursor = before c l ∧ (r.mayGoBack = false → k ≤ l) ∧
      (r.looks = true → l = k) := by
  cases r with
  | position | size | atEnd | current | peek _ | startsWith _ | mark | describe =>
    exact ⟨_, k, rfl, rfl, fun _ => Nat.le_refl k, fun _ => rfl⟩
  | ahead n => exact ⟨_, k, ask_ahead_before c k n, rfl, fun _ => Nat.le_refl k, fun _ => rfl⟩
  | rest => exact ⟨_, k, ask_rest_before c hk, rfl, fun _ => Nat.le_refl k, fun _ => rfl⟩
  | since m => exact ⟨_, k, ask_since_before c hk m, rfl, fun _ => Nat.le_refl k, fun _ => rfl⟩
  | moveTo i => exact ⟨_, _, rfl, cursor_moveTo_before c k i, nofun, nofun⟩
  | returnTo m => exact ⟨_, _, rfl, cursor_moveTo_before c k m.position, nofun, nofun⟩
  | advance => exact ⟨_, _, rfl, advance_before c k, fun _ => Nat.le_succ k, nofun⟩
  | skip m =>
    exact ⟨_, _, rfl, congrArg Outcome.cursor (skip_before c k m), fun _ => Nat.le_add_right ..,
      nofun⟩
  | scan m => exact ⟨_, _, ask_scan_before c k m, rfl, fun _ => Nat.le_add_right .., nofun⟩
  | scanOne => exact ⟨_, _, rfl, advance_before c k, fun _ => Nat.le_succ k, nofun⟩
  | expect e =>
    obtain ⟨o, n, ho, htook⟩ := ask_expect_took c k e
    exact ⟨o, k + n, ho, htook.cursor, fun _ => Nat.le_add_right .., nofun⟩

/-- **A run of requests from a boundary** comes to an end and keeps its place. -/
theorem askAll_before (c : C) {k : Nat} (hk : k ≤ (toList c).length) (rs : List (Request α)) :
    ∃ os, (before c k).askAll rs = .ok os ∧ KeepsPlace (Boundary c) (before c k) rs os := by
  induction rs generalizing k with
  | nil => exact ⟨[], rfl, .nil⟩
  | cons r rs ih =>
    obtain ⟨o, l, ho, hcursor, hback, hlook⟩ := ask_before c hk r
    rw [← before_min_length c l] at hcursor
    obtain ⟨os, hos, hrun⟩ := ih (Nat.min_le_right l (toList c).length)
    rw [← hcursor] at hos hrun
    refine ⟨o :: os, askAll_cons ho hos, .cons ?_ ?_ ?_ ?_ hrun⟩
    · rw [hcursor, input_before, input_before]
    · rw [hcursor]
      exact boundary_start c _
    · intro h
      rw [hcursor, position_before, position_before, start_min_length]
      exact start_le_start (hback h)
    · intro h
      rw [hcursor, before_min_length, hlook h]

/-- **What holds before each element and at the end** holds wherever requests lead. -/
theorem everywhere_of_before {c : C} {P : Cursor C → Prop}
    (h : ∀ k ≤ (toList c).length, P (before c k)) : Everywhere c P := by
  intro rs
  obtain ⟨os, hos, hrun⟩ := askAll_before c (Nat.zero_le _) rs
  obtain ⟨hinput, k, hk, hposition⟩ := hrun.afterAll (boundary_start c 0)
  refine ⟨os, hos, ?_⟩
  have hbefore : (ofInput c).afterAll os = before c k := congr (congrArg Cursor.mk hinput) hposition
  rw [hbefore]
  exact h k hk

end Cursor

/-! ## Sums of indices -/

/-- **A sequence adds exactly** — where moving forward leads somewhere, no sum of an index and a
count wrapped. -/
def Sequence.AddsExactly {α : Type} (s : Sequence α) : Prop :=
  ∀ i n limit, ∀ j ∈ s.forward? i n limit, j.toNat = i.toNat + n.toNat

/-- **A text adds exactly** — where there is a character to step over, the sum of its index and its
width does not wrap, and there is a boundary to stop at on the way down from any index. -/
def Text.AddsExactly (t : Text) : Prop :=
  (∀ i, ∀ x ∈ t.get? i, (i + UInt64.ofNat x.utf8Size).toNat = i.toNat + x.utf8Size) ∧
    t.isBoundary 0 = true

theorem Sequence.addsExactly {α : Type} (s : Sequence α) : s.AddsExactly :=
  fun _ _ _ _ hj => (forward?_eq_some_iff.mp hj).1

theorem Text.addsExactly (t : Text) : t.AddsExactly :=
  ⟨fun _ _ hx => toNat_add_utf8Size hx, isBoundary_start t 0⟩

/-- **No use of a cursor goes wrong.**  A run of any requests from the start of a sequence or a text
takes no part that is not there and never wraps an index; after each request the position is at most
the size, and of a text the start of a character or the end; only `moveTo` and `returnTo` take it
back, and looking leaves it in place. -/
theorem askAll_keepsPlace :
    (∀ (α : Type) [BEq α] (s : Sequence α) (rs : List (Request α)), s.AddsExactly ∧
      ∃ os, (Cursor.ofInput s).askAll rs = .ok os ∧
        Cursor.KeepsPlace (· ≤ s.size) (Cursor.ofInput s) rs os) ∧
    (∀ (t : Text) (rs : List (Request Char)), t.AddsExactly ∧
      ∃ os, (Cursor.ofInput t).askAll rs = .ok os ∧
        Cursor.KeepsPlace (fun i => i ≤ t.size ∧ t.isBoundary i = true) (Cursor.ofInput t)
          rs os) := by
  constructor
  · intro α _ s rs
    obtain ⟨os, hos, hrun⟩ := Cursor.askAll_before s (Nat.zero_le _) rs
    exact ⟨s.addsExactly, os, hos, hrun.mono fun _ hi => hi.le_size⟩
  · intro t rs
    obtain ⟨os, hos, hrun⟩ := Cursor.askAll_before t (Nat.zero_le _) rs
    refine ⟨t.addsExactly, os, hos, hrun.mono ?_⟩
    rintro _ ⟨k, hk, rfl⟩
    exact ⟨Input.start_le_size t k, t.isBoundary_start k⟩

end ForwardCursor
