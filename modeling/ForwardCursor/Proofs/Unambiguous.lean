import ForwardCursor.Token
import ForwardCursor.Proofs.Reading

/-!
# Proofs/Unambiguous — a listing says which tokens it lists

    ts ──a line each──▸ listing        listing ──▸ at most one ts

A way of writing things down is *unambiguous* when a thing and what was written behind it can both
be told from the characters.  So is one that never uses a certain character and closes with it, and
so is a list of things up to a character that none of them starts with.  A line of a listing is put
together from such writings: a name up to a blank, an escaped text up to its closing quote, a
numeral up to a point, a numeral up to the end of the line.  `render_legible` follows: no two lists
of tokens share a listing, whatever quotes, digits, points or line breaks their texts hold, and
whichever characters are taken for hidden.
-/

namespace ForwardCursor

variable {α : Type}

/-! ## Writings that can be told from what follows -/

/-- **A writing that can be told from what follows it.** -/
def Unambiguous (write : α → List Char) : Prop :=
  ∀ ⦃x y : α⦄ ⦃as bs : List Char⦄, write x ++ as = write y ++ bs → x = y ∧ as = bs

namespace Unambiguous

variable {write : α → List Char} {x : α} {as bs : List Char} {z : Char}

/-- What never uses a character, **closed by that character**. -/
theorem closed (hinj : Function.Injective write) (hz : ∀ x, z ∉ write x) :
    Unambiguous fun x => write x ++ [z] := by
  intro x y as bs h
  rw [List.append_assoc, List.append_assoc, List.singleton_append, List.singleton_append] at h
  have hrun : ∀ (x : α) (as : List Char), (write x ++ z :: as).takeWhile (· != z) = write x :=
    fun x as => takeWhile_append_of_head?
      (fun c hc => bne_iff_ne.mpr fun hcz => hz x (hcz ▸ hc)) (by simp)
  have hxy : x = y := hinj (by rw [← hrun x as, h, hrun])
  rw [hxy] at h
  exact ⟨hxy, (List.cons.inj (List.append_cancel_left h)).2⟩

/-- **A list of things**, in front of what none of them starts. -/
theorem flatMap_append (h : Unambiguous write) (has : ∀ x, ¬ write x <+: as)
    (hbs : ∀ x, ¬ write x <+: bs) :
    ∀ {xs ys : List α}, xs.flatMap write ++ as = ys.flatMap write ++ bs → xs = ys ∧ as = bs
  | [], [], heq => ⟨rfl, heq⟩
  | [], y :: ys, heq => by
    rw [List.flatMap_nil, List.nil_append, List.flatMap_cons, List.append_assoc] at heq
    exact absurd (heq ▸ List.prefix_append _ _) (has y)
  | x :: xs, [], heq => by
    rw [List.flatMap_nil, List.nil_append, List.flatMap_cons, List.append_assoc] at heq
    exact absurd (heq ▸ List.prefix_append _ _) (hbs x)
  | x :: xs, y :: ys, heq => by
    rw [List.flatMap_cons, List.flatMap_cons, List.append_assoc, List.append_assoc] at heq
    obtain ⟨rfl, hrest⟩ := h heq
    obtain ⟨rfl, hend⟩ := flatMap_append h has hbs hrest
    exact ⟨rfl, hend⟩

/-- **A list of things, closed by a character** that none of them starts with. -/
theorem flatMap_closed (h : Unambiguous write) (hz : ∀ x as, ¬ write x <+: z :: as) :
    Unambiguous fun xs : List α => xs.flatMap write ++ [z] := by
  intro xs ys as bs heq
  rw [List.append_assoc, List.append_assoc] at heq
  obtain ⟨rfl, hend⟩ := h.flatMap_append (fun x => hz x as) (fun x => hz x bs) heq
  exact ⟨rfl, (List.cons.inj hend).2⟩

/-- **A list of things** can be told, when each leaves a trace. -/
theorem flatMap_inj (h : Unambiguous write) (hne : ∀ x, write x ≠ []) {xs ys : List α}
    (heq : xs.flatMap write = ys.flatMap write) : xs = ys := by
  have hnil : ∀ x, ¬ write x <+: [] := fun x hx => hne x (List.prefix_nil.mp hx)
  exact (h.flatMap_append hnil hnil (congrArg (· ++ []) heq)).1

end Unambiguous

/-! ## Numerals -/

section Digits

variable {b m n : Nat}

theorem digitChar_inj (hm : m < 16) (hn : n < 16) (h : m.digitChar = n.digitChar) : m = n := by
  have hfin : ∀ i j : Fin 16, i.val.digitChar = j.val.digitChar → i = j := by decide
  exact Fin.mk.inj (hfin ⟨m, hm⟩ ⟨n, hn⟩ h)

/-- **A character that is no digit** is in no numeral. -/
theorem notMem_toDigits (hb : 1 < b) {z : Char} (hz : ∀ d : Nat, d.digitChar ≠ z) :
    z ∉ Nat.toDigits b n := by
  induction n using Nat.base_induction b hb with
  | single m hm =>
    rw [Nat.toDigits_of_lt_base hm, List.mem_singleton]
    exact fun h => hz m h.symm
  | digit m k hk hm ih =>
    rw [← Nat.toDigits_append_toDigits hb hm hk, List.mem_append, Nat.toDigits_of_lt_base hk,
      List.mem_singleton]
    exact fun h => h.elim ih fun h => hz k h.symm

/-- **A numeral is that of one number**, in every base up to sixteen. -/
theorem toDigits_injective (hb : 1 < b) (hb' : b ≤ 16) : Function.Injective (Nat.toDigits b) := by
  intro m
  induction m using Nat.strong_induction_on with
  | _ m ih =>
    intro n h
    rw [Nat.toDigits_eq_if hb, Nat.toDigits_eq_if (n := n) hb] at h
    have hlast : ∀ k : Nat, k % b < 16 := fun k => (Nat.mod_lt k (by omega)).trans_le hb'
    split at h <;> split at h
    case isTrue.isTrue hm hn =>
      exact digitChar_inj (by omega) (by omega) (List.cons.inj h).1
    -- one digit is not two
    case isTrue.isFalse hm hn =>
      exact absurd (congrArg List.length h) (by simp [Nat.toDigits_ne_nil])
    case isFalse.isTrue hm hn =>
      exact absurd (congrArg List.length h) (by simp [Nat.toDigits_ne_nil])
    case isFalse.isFalse hm hn =>
      obtain ⟨hfront, hdigit⟩ := List.append_inj' h rfl
      have hdiv : m / b = n / b := ih (m / b) (Nat.div_lt_self (by omega) hb) hfront
      have hmod : m % b = n % b := digitChar_inj (hlast m) (hlast n) (List.cons.inj hdigit).1
      rw [← Nat.div_add_mod m b, hdiv, hmod, Nat.div_add_mod]

/-- A numeral up to a character that is no digit. -/
theorem toDigits_closed (hb : 1 < b) (hb' : b ≤ 16) {z : Char} (hz : ∀ d : Nat, d.digitChar ≠ z) :
    Unambiguous fun n => Nat.toDigits b n ++ [z] :=
  .closed (toDigits_injective hb hb') fun _ => notMem_toDigits hb hz

end Digits

/-! ## Quoted texts -/

namespace Quoted

/-- The characters that are escaped by a letter, and their letters. -/
def marks : List (Char × Char) :=
  [('"', '"'), ('\\', '\\'), ('\x00', '0'), ('\t', 't'), ('\n', 'n'), ('\r', 'r')]

/-- **The ways of writing a character** of a quoted text. -/
inductive Written (c : Char) : List Char → Prop
  /-- By its letter. -/
  | letter {e : Char} (h : (c, e) ∈ marks) : Written c ['\\', e]
  /-- By its code point. -/
  | hex : Written c (codePoint c)
  /-- By itself. -/
  | shown (h : ∀ z ∈ ['"', '\\', '\n'], c ≠ z) : Written c [c]

theorem codePoint_unambiguous : Unambiguous codePoint := by
  intro c d as bs h
  have hdigits : Unambiguous fun n => Nat.toDigits 16 n ++ ['\x7d'] :=
    toDigits_closed (by decide) (by decide) fun d => d.digitChar_ne _ rfl
  rw [codePoint, codePoint, List.append_assoc _ _ ['\x7d'], List.append_assoc _ _ ['\x7d'],
    List.append_assoc, List.append_assoc ['\\', 'u', '\x7b']] at h
  obtain ⟨hcd, hrest⟩ := hdigits (List.append_cancel_left h)
  exact ⟨Char.toNat_inj.mp hcd, hrest⟩

namespace Written

variable {c d : Char} {es fs as bs : List Char}

/-- **An escape is that of one character**, and says where it ends: behind the backslash stands the
letter of one character only, or the `u` that is the letter of none. -/
theorem unique (hc : Written c es) (hd : Written d fs) (h : es ++ as = fs ++ bs) :
    c = d ∧ as = bs := by
  have hletter : ∀ p ∈ marks, ∀ q ∈ marks, p.2 = q.2 → p = q := by decide
  have hu : ∀ p ∈ marks, p.2 ≠ 'u' := by decide
  rcases hc with hc | _ | hc <;> rcases hd with hd | _ | hd
  case letter.letter =>
    obtain ⟨hef, hrest⟩ := List.cons.inj (List.cons.inj h).2
    exact ⟨congrArg Prod.fst (hletter _ hc _ hd hef), hrest⟩
  case hex.hex => exact codePoint_unambiguous h
  case shown.shown => exact List.cons.inj h
  case letter.hex => exact absurd (List.cons.inj (List.cons.inj h).2).1 (hu _ hc)
  case hex.letter => exact absurd (List.cons.inj (List.cons.inj h).2).1.symm (hu _ hd)
  -- a character shown is no backslash
  case shown.letter | shown.hex => exact absurd (List.cons.inj h).1 (hc '\\' (by decide))
  case letter.shown | hex.shown => exact absurd (List.cons.inj h).1.symm (hd '\\' (by decide))

/-- **No escape starts with a quote**, so the closing quote can be told. -/
theorem not_prefix_quote (hc : Written c es) : ¬ es <+: '"' :: as := by
  rintro ⟨bs, h⟩
  rcases hc with _ | _ | hc
  case letter | hex => exact absurd (List.cons.inj h).1 (by decide)
  case shown => exact hc '"' (by decide) (List.cons.inj h).1

/-- **No escape holds a line break.** -/
theorem break_notMem (hc : Written c es) : '\n' ∉ es := by
  rcases hc with hc | _ | hc
  case letter e =>
    have hletter : ∀ p ∈ marks, p.2 ≠ '\n' := by decide
    simpa using (hletter _ hc).symm
  case hex =>
    have hdigits : '\n' ∉ Nat.toDigits 16 c.toNat :=
      notMem_toDigits (by decide) fun d => d.digitChar_ne _ rfl
    simpa [codePoint] using hdigits
  case shown => simpa using (hc '\n' (by decide)).symm

end Written

variable [Character.Classes]

theorem written_escape (c : Char) : Written c (escape c) := by
  fun_cases escape c with
  | case1 h | case2 _ h | case3 _ _ h | case4 _ _ _ h | case5 _ _ _ _ h | case6 _ _ _ _ _ h =>
    exact .letter (by rw [h]; decide)
  | case7 => exact .hex
  | case8 hquote hback _ _ hbreak => exact .shown (by simp [hquote, hback, hbreak])

theorem escape_unambiguous : Unambiguous escape :=
  fun c d _ _ h => (written_escape c).unique (written_escape d) h

/-- **A quoted text can be told** from what follows it, whatever the text. -/
theorem chars_unambiguous : Unambiguous chars :=
  fun _ _ _ _ h => escape_unambiguous.flatMap_closed
    (fun c _ => (written_escape c).not_prefix_quote) (List.cons.inj h).2

theorem break_notMem_chars (cs : List Char) : '\n' ∉ chars cs := by
  simp [chars, fun c => (written_escape c).break_notMem]

end Quoted

/-! ## Lines -/

/-- **A listing that can be read**: it is one of one list only, and gives each thing a line. -/
structure Legible (line : α → String) (render : List α → String) : Prop where
  /-- No two lists share a listing. -/
  injective : Function.Injective render
  /-- A listing is its lines, one after another. -/
  lines (xs : List α) : (render xs).toList = xs.flatMap fun x => (line x).toList
  /-- A line is a text without a line break, and a line break. -/
  break_once (x : α) : ∃ body : List Char, '\n' ∉ body ∧ (line x).toList = body ++ ['\n']
  /-- There are as many line breaks as things listed. -/
  breaks (xs : List α) : (render xs).toList.count '\n' = xs.length

namespace Token

theorem name_closed : Unambiguous fun k : TokenKind => k.name.toList ++ [' '] := by
  refine .closed ?_ ?_
  · rintro (_ | _ | _ | _ | _) (_ | _ | _ | _ | _) h <;> first | rfl | exact absurd h (by decide)
  · rintro (_ | _ | _ | _ | _) <;> decide

theorem index_closed {z : Char} (hz : ∀ d : Nat, d.digitChar ≠ z) :
    Unambiguous fun i : Index => Nat.toDigits 10 i.toNat ++ [z] := by
  intro i j as bs h
  obtain ⟨hij, hrest⟩ := toDigits_closed (by decide) (by decide) hz h
  exact ⟨UInt64.toNat_inj.mp hij, hrest⟩

section Listing

variable [Character.Classes]

/-- A line without its line break. -/
def body (t : Token) : List Char :=
  t.kind.name.toList ++ ' ' :: (Quoted.chars t.text.toList ++ ' ' ::
    (Nat.toDigits 10 t.start.toNat ++ '.' :: '.' :: Nat.toDigits 10 t.stop.toNat))

theorem toList_line (t : Token) : t.line.toList = t.body ++ ['\n'] := by
  simp [line, body, Quoted.quote]

theorem break_notMem_body (t : Token) : '\n' ∉ t.body := by
  have hname : ∀ k : TokenKind, '\n' ∉ k.name.toList := by rintro (_ | _ | _ | _ | _) <;> decide
  have hdigits : ∀ n : Nat, '\n' ∉ Nat.toDigits 10 n := fun _ =>
    notMem_toDigits (by decide) fun d => d.digitChar_ne _ rfl
  simp [body, hname, hdigits, Quoted.break_notMem_chars]

/-- **A line is that of one token**, and it can be told where it ends. -/
theorem line_unambiguous : Unambiguous fun t : Token => t.line.toList := by
  intro t u as bs h
  have hparts : ∀ (t : Token) (as : List Char), t.line.toList ++ as =
      (t.kind.name.toList ++ [' ']) ++ (Quoted.chars t.text.toList ++
        ([' '] ++ ((Nat.toDigits 10 t.start.toNat ++ ['.']) ++
          (['.'] ++ ((Nat.toDigits 10 t.stop.toNat ++ ['\n']) ++ as))))) := by
    simp [toList_line, body]
  rw [hparts, hparts] at h
  obtain ⟨hkind, h⟩ := name_closed h
  obtain ⟨htext, h⟩ := Quoted.chars_unambiguous h
  obtain ⟨hstart, h⟩ := index_closed (fun d => d.digitChar_ne _ rfl) (List.append_cancel_left h)
  obtain ⟨hstop, h⟩ := index_closed (fun d => d.digitChar_ne _ rfl) (List.append_cancel_left h)
  have htoken : t = u := by
    rcases t with ⟨_, _, _, _⟩
    rw [mk.injEq]
    exact ⟨hkind, String.toList_inj.mp htext, hstart, hstop⟩
  exact ⟨htoken, h⟩

theorem toList_render (ts : List Token) :
    (render ts).toList = ts.flatMap fun t => t.line.toList := by
  rw [render, String.toList_join, List.flatMap_map]

/-- **A listing says which tokens it lists**, one to a line: any tokens, not only those that reading
a source gives. -/
theorem render_legible : Legible line render where
  injective ts us h := by
    have hne : ∀ t : Token, t.line.toList ≠ [] := fun t => by simp [toList_line]
    exact line_unambiguous.flatMap_inj hne (by rw [← toList_render, ← toList_render, h])
  lines := toList_render
  break_once t := ⟨t.body, t.break_notMem_body, t.toList_line⟩
  breaks ts := by
    induction ts with
    | nil => rfl
    | cons t ts ih =>
      rw [render_cons, String.toList_append, List.count_append, ih, toList_line, List.count_append,
        List.count_eq_zero_of_not_mem t.break_notMem_body, List.count_singleton_self,
        List.length_cons]
      omega

end Listing

example : render [⟨.string, "\"1..2\n", 3, 10⟩, ⟨.number, "7", 10, 11⟩] =
    "Str \"\\\"1..2\\n\" 3..10\nNumber \"7\" 10..11\n" := by
  decide +kernel

end Token

end ForwardCursor
