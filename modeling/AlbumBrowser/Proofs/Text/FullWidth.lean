import AlbumBrowser.Proofs.Text.Digits
import Mathlib.Algebra.Group.Nat.Defs

/-!
Numbers in full width. A number that must have exactly so many digits is the same whatever follows it. Two
runs of digits of one width are ordered as texts just as the numbers that they stand for, the first digit that
differs deciding both; so are two texts that begin with such runs and go on with such runs.
-/

namespace AlbumBrowser.Text

variable {width m n : Nat} {s t rest : List Char}

/-! ### Reading -/

/-- A number, in exactly that many digits. -/
inductive WritesNumber (width : Nat) : Nat → List Char → Prop
  | digits {run : List Char} (hdigits : IsDigits run) (hlength : run.length = width) :
      WritesNumber width (ofDigits run) run

theorem writesNumber_iff : WritesNumber width n t ↔ (IsDigits t ∧ t.length = width) ∧ ofDigits t = n := by
  constructor
  · rintro ⟨hdigits, hlength⟩
    exact ⟨⟨hdigits, hlength⟩, rfl⟩
  · rintro ⟨⟨hdigits, hlength⟩, rfl⟩
    exact .digits hdigits hlength

instance (width n : Nat) (t : List Char) : Decidable (WritesNumber width n t) :=
  decidable_of_iff _ writesNumber_iff.symm

namespace WritesNumber

theorem isDigits (h : WritesNumber width n t) : IsDigits t := by
  cases h with
  | digits hdigits => exact hdigits

theorem length_eq (h : WritesNumber width n t) : t.length = width := by
  cases h with
  | digits _ hlength => exact hlength

theorem lt (h : WritesNumber width n t) : n < 10 ^ width := by
  obtain ⟨⟨hdigits, hlength⟩, rfl⟩ := writesNumber_iff.mp h
  rw [← hlength]
  exact ofDigits_lt hdigits

theorem spells (h : WritesNumber width n t) (hwidth : 0 < width) : SpellsNumber width n t := by
  cases h with
  | digits hdigits hlength =>
      refine .digits hdigits ?_ (Nat.le_of_eq hlength)
      rintro rfl
      exact Nat.ne_of_lt hwidth hlength

theorem isVisible (h : WritesNumber width n t) : IsVisible t := fun x hx => isWhiteSpace_of_isDigit (h.isDigits x hx)

end WritesNumber

theorem takeExactly_eq_some_iff :
    takeExactly width s = some (n, rest) ↔ ∃ t, WritesNumber width n t ∧ s = t ++ rest := by
  constructor
  · intro h
    have happend := splitDigits_append width s
    have hall := all_splitDigits width s
    unfold takeExactly at h
    split at h
    rename_i run after hrun
    rw [hrun] at happend hall
    split at h
    · rename_i hlength
      cases h
      exact ⟨run, .digits (List.all_eq_true.mp hall) hlength, happend.symm⟩
    · cases h
  · rintro ⟨t, ⟨hdigits, hlength⟩, rfl⟩
    rw [takeExactly, splitDigits_run hdigits (Nat.le_of_eq hlength) (Or.inl hlength)]
    exact if_pos hlength

/-! ### Order -/

theorem lt_append_iff (hlength : s.length = t.length) {s' t' : List Char} :
    s ++ s' < t ++ t' ↔ s < t ∨ s = t ∧ s' < t' := by
  induction s generalizing t with
  | nil =>
      cases List.eq_nil_of_length_eq_zero hlength.symm
      simp
  | cons a s ih =>
      cases t with
      | nil => cases hlength
      | cons b t =>
          rw [List.cons_append, List.cons_append, List.cons_lt_cons_iff, List.cons_lt_cons_iff,
            ih (Nat.succ.inj hlength), List.cons.injEq, or_assoc, and_or_left, and_assoc]

/-- Of two numbers that are split at the same place, the front parts decide unless they are equal. -/
theorem mul_add_lt_iff {base m n p q : Nat} (hp : p < base) (hq : q < base) :
    base * m + p < base * n + q ↔ m < n ∨ m = n ∧ p < q := by
  have hstep : ∀ {x y : Nat}, x < y → base * x + base ≤ base * y := fun h => Nat.mul_le_mul_left base h
  rcases Nat.lt_trichotomy m n with hlt | rfl | hgt
  · have := hstep hlt
    omega
  · omega
  · have := hstep hgt
    omega

theorem lt_iff_ofDigits_lt (hs : IsDigits s) (ht : IsDigits t) (hlength : s.length = t.length) :
    s < t ↔ ofDigits s < ofDigits t := by
  induction s generalizing t with
  | nil =>
      cases List.eq_nil_of_length_eq_zero hlength.symm
      simp
  | cons a s ih =>
      cases t with
      | nil => cases hlength
      | cons b t =>
          obtain ⟨ha, hrest⟩ := List.forall_mem_cons.mp hs
          obtain ⟨hb, hrest'⟩ := List.forall_mem_cons.mp ht
          have hwidth : s.length = t.length := Nat.succ.inj hlength
          have hfirst : a < b ↔ a.toNat - 48 < b.toNat - 48 := by
            have hvalue := toNat_of_isDigit ha
            exact UInt32.lt_iff_toNat_lt.trans (by change a.toNat < b.toNat ↔ _; omega)
          have hsame : a = b ↔ a.toNat - 48 = b.toNat - 48 := by
            have hvalue := toNat_of_isDigit ha
            have hvalue' := toNat_of_isDigit hb
            rw [← Char.toNat_inj]
            omega
          rw [List.cons_lt_cons_iff, ih hrest hrest' hwidth, ofDigits_cons, ofDigits_cons, hfirst, hsame, hwidth]
          exact (mul_add_lt_iff (hwidth ▸ ofDigits_lt hrest) (ofDigits_lt hrest')).symm

theorem paddedDigits_inj : paddedDigits width m = paddedDigits width n ↔ m = n := by
  refine ⟨fun h => ?_, congrArg _⟩
  have hvalue := congrArg ofDigits h
  rwa [ofDigits_paddedDigits, ofDigits_paddedDigits] at hvalue

theorem paddedDigits_lt_iff (hwidth : 0 < width) (hm : m < 10 ^ width) (hn : n < 10 ^ width) :
    paddedDigits width m < paddedDigits width n ↔ m < n := by
  have hlength := (length_paddedDigits hwidth hm).trans (length_paddedDigits hwidth hn).symm
  rw [lt_iff_ofDigits_lt (isDigits_paddedDigits _ _) (isDigits_paddedDigits _ _) hlength, ofDigits_paddedDigits,
    ofDigits_paddedDigits]

end AlbumBrowser.Text
