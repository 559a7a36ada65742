import AlbumBrowser.Proofs.Text.Trim
import AlbumBrowser.Text.Numeral
import Mathlib.Algebra.Group.Nat.Defs

/-!
Runs of digits, and numerals in their full width: a reader of numbers stops at its width or at the first character
that is no digit, so it reads back what was written.
-/

namespace AlbumBrowser

namespace Text

/-- Nothing but digits. -/
def IsDigits (run : List Char) : Prop := ∀ c ∈ run, c.isDigit = true

instance (run : List Char) : Decidable (IsDigits run) :=
  decidable_of_iff (run.all Char.isDigit = true) List.all_eq_true

/-- A text that does not go on with a digit. -/
def Ends (rest : List Char) : Prop := ∀ c ∈ rest.head?, c.isDigit = false

variable {run rest : List Char} {c : Char}

theorem isDigits_nil : IsDigits [] := fun _ h => absurd h List.not_mem_nil

theorem IsDigits.cons (hc : c.isDigit = true) (h : IsDigits run) : IsDigits (c :: run) :=
  List.forall_mem_cons.mpr ⟨hc, h⟩

theorem isDigits_takeWhile (s : List Char) : IsDigits (s.takeWhile Char.isDigit) :=
  List.all_eq_true.mp List.all_takeWhile

theorem ends_nil : Ends [] := fun _ h => by cases h

theorem ends_cons (h : c.isDigit = false) : Ends (c :: rest) := by
  intro d hd
  cases hd
  exact h

theorem Ends.not_isDigit (h : Ends (c :: rest)) : ¬c.isDigit = true := by
  rw [h c rfl]
  exact Bool.false_ne_true

/-- Dropping digits stops at the end of a run of them. -/
theorem dropWhile_run (hrun : IsDigits run) (hends : Ends rest) : (run ++ rest).dropWhile Char.isDigit = rest := by
  rw [List.dropWhile_append_of_pos hrun]
  cases rest with
  | nil => rfl
  | cons c rest => exact List.dropWhile_cons_of_neg hends.not_isDigit

/-- Taking digits stops there as well. -/
theorem takeWhile_run (hrun : IsDigits run) (hends : Ends rest) : (run ++ rest).takeWhile Char.isDigit = run := by
  rw [List.takeWhile_append_of_pos hrun]
  cases rest with
  | nil => exact List.append_nil run
  | cons c rest => rw [List.takeWhile_cons_of_neg hends.not_isDigit, List.append_nil]

theorem splitDigits_run {limit : Nat} (hrun : IsDigits run) (hlimit : run.length ≤ limit)
    (hends : run.length = limit ∨ Ends rest) : splitDigits limit (run ++ rest) = (run, rest) := by
  induction run generalizing limit with
  | nil =>
      cases limit with
      | zero => rfl
      | succ limit =>
          rcases hends with hwidth | hends
          · cases hwidth
          · cases rest with
            | nil => rfl
            | cons c rest => simp [splitDigits, hends c rfl]
  | cons c run ih =>
      obtain ⟨hc, hrest⟩ := List.forall_mem_cons.mp hrun
      obtain ⟨limit, rfl⟩ := Nat.exists_eq_add_one_of_ne_zero (Nat.ne_zero_of_lt hlimit)
      have hmore := ih hrest (Nat.le_of_succ_le_succ hlimit) (hends.imp_left Nat.succ.inj)
      simp [splitDigits, hc, hmore]

theorem ofDigits_cons (c : Char) (run : List Char) :
    ofDigits (c :: run) = 10 ^ run.length * (c.toNat - 48) + ofDigits run := by
  rw [ofDigits, Nat.ofDigitChars_cons, Nat.mul_zero, Nat.zero_add]
  exact Nat.ofDigitChars_eq_ofDigitChars_zero

theorem ofDigits_append (run run' : List Char) :
    ofDigits (run ++ run') = 10 ^ run'.length * ofDigits run + ofDigits run' := by
  rw [ofDigits, Nat.ofDigitChars_append]
  exact Nat.ofDigitChars_eq_ofDigitChars_zero

theorem toNat_of_isDigit (h : c.isDigit = true) : 48 ≤ c.toNat ∧ c.toNat ≤ 57 := by
  simp only [Char.isDigit, Bool.and_eq_true, decide_eq_true_eq] at h
  exact h

/-- A run of digits stands for less than the power of ten that has one more digit. -/
theorem ofDigits_lt (h : IsDigits run) : ofDigits run < 10 ^ run.length := by
  induction run with
  | nil => decide
  | cons c rest ih =>
      obtain ⟨hc, hrest⟩ := List.forall_mem_cons.mp h
      have hvalue : c.toNat - 48 ≤ 9 := Nat.sub_le_of_le_add (toNat_of_isDigit hc).2
      have hhead := Nat.mul_le_mul_left (10 ^ rest.length) hvalue
      have hlt := ih hrest
      rw [ofDigits_cons, List.length_cons, Nat.pow_succ]
      omega

/-! ### Numbers -/

/-- A number, in one to `limit` digits. -/
inductive SpellsNumber (limit : Nat) : Nat → List Char → Prop
  | digits {run : List Char} (hdigits : IsDigits run) (hne : run ≠ []) (hlength : run.length ≤ limit) :
      SpellsNumber limit (ofDigits run) run

variable {width limit limit' n : Nat} {s t : List Char}

namespace SpellsNumber

theorem widen (h : SpellsNumber limit n t) (hlength : t.length ≤ limit') : SpellsNumber limit' n t := by
  cases h with
  | digits hdigits hne => exact .digits hdigits hne hlength

theorem exists_cons (h : SpellsNumber limit n t) : ∃ c run, t = c :: run ∧ c.isDigit = true := by
  cases h with
  | digits hdigits hne =>
      obtain ⟨c, run, rfl⟩ := List.exists_cons_of_ne_nil hne
      exact ⟨c, run, rfl, hdigits c List.mem_cons_self⟩

/-- A number is read, if the reader is not stopped short and does not go too far. -/
theorem takeNumber_append (h : SpellsNumber limit n t) (hends : t.length = limit ∨ Ends rest) :
    takeNumber limit (t ++ rest) = some (n, rest) := by
  cases h with
  | digits hdigits hne hlength =>
      rw [takeNumber, splitDigits_run hdigits hlength hends]
      exact if_neg hne

end SpellsNumber

/-- A reader of numbers goes on to its width, or to a character that is no digit. -/
theorem splitDigits_stops (limit : Nat) (s : List Char) :
    (splitDigits limit s).1.length = limit ∨ Ends (splitDigits limit s).2 := by
  fun_induction splitDigits limit s with
  | case1 limit c rest hc run after hmore ih =>
      rw [hmore] at ih
      exact ih.imp_left (congrArg Nat.succ)
  | case2 limit c rest hc => exact Or.inr (ends_cons (Bool.eq_false_iff.mpr hc))
  | case3 limit s hstop =>
      cases limit with
      | zero => exact Or.inl rfl
      | succ limit =>
          cases s with
          | nil => exact Or.inr ends_nil
          | cons c rest => exact absurd rfl (hstop limit c rest rfl)

theorem takeNumber_eq_some_iff : takeNumber limit s = some (n, rest) ↔
    ∃ t, SpellsNumber limit n t ∧ (t.length = limit ∨ Ends rest) ∧ s = t ++ rest := by
  constructor
  · intro h
    have hstops := splitDigits_stops limit s
    have happend := splitDigits_append limit s
    have hall := all_splitDigits limit s
    have hlength := length_splitDigits_le limit s
    unfold takeNumber at h
    split at h
    rename_i run after hrun
    rw [hrun] at hstops happend hall hlength
    split at h
    · cases h
    · rename_i hne
      cases h
      exact ⟨run, .digits (List.all_eq_true.mp hall) hne hlength, hstops, happend.symm⟩
  · rintro ⟨t, hspells, hstops, rfl⟩
    exact hspells.takeNumber_append hstops

/-! ### Numerals -/

theorem isDigits_digits (n : Nat) : IsDigits (digits n) :=
  fun _ hc => Nat.isDigit_of_mem_toDigits (by decide) (by decide) hc

theorem ofDigits_digits (n : Nat) : ofDigits (digits n) = n := Nat.ofDigitChars_ten_toDigits

/-- Only the numeral of zero begins with a zero. -/
theorem exists_digits (h : 0 < n) : ∃ c run, digits n = c :: run ∧ c ≠ '0' := by
  induction n using Nat.strongRecOn with
  | ind n ih =>
      rcases Nat.lt_or_ge n 10 with hone | hmore
      · refine ⟨n.digitChar, [], Nat.toDigits_of_lt_base hone, ?_⟩
        rw [ne_eq, Nat.digitChar_eq_zero]
        omega
      · obtain ⟨c, run, hrun, hc⟩ := ih (n / 10) (by omega) (by omega)
        refine ⟨c, run ++ [(n % 10).digitChar], ?_, hc⟩
        rw [digits, Nat.toDigits_of_base_le (by decide) hmore, ← List.cons_append, ← hrun, digits]

/-! ### Padded numerals -/

theorem isDigits_paddedDigits (width n : Nat) : IsDigits (paddedDigits width n) := by
  intro c h
  rcases List.mem_append.mp h with hzero | hdigit
  · rw [List.eq_of_mem_replicate hzero]
    rfl
  · exact isDigits_digits n c hdigit

theorem ofDigits_paddedDigits (width n : Nat) : ofDigits (paddedDigits width n) = n := by
  rw [ofDigits, paddedDigits, List.leftpad, Nat.ofDigitChars_append, Nat.ofDigitChars_replicate_zero, Nat.mul_zero]
  exact ofDigits_digits n

theorem length_paddedDigits (hwidth : 0 < width) (h : n < 10 ^ width) : (paddedDigits width n).length = width := by
  have hdigits : (digits n).length ≤ width := (Nat.length_toDigits_le_iff (by decide) hwidth).mpr h
  rw [paddedDigits, List.length_leftpad]
  exact Nat.max_eq_left hdigits

theorem exists_paddedDigits (width n : Nat) : ∃ c run, paddedDigits width n = c :: run ∧ c.isDigit = true := by
  cases hrun : paddedDigits width n with
  | nil =>
      have hnone : digits n = [] := (List.append_eq_nil_iff.mp hrun).2
      exact absurd hnone Nat.toDigits_ne_nil
  | cons c run => exact ⟨c, run, rfl, isDigits_paddedDigits width n c (hrun ▸ List.mem_cons_self)⟩

theorem spellsNumber_paddedDigits (hlimit : (paddedDigits width n).length ≤ limit) :
    SpellsNumber limit n (paddedDigits width n) := by
  obtain ⟨c, run, hrun, -⟩ := exists_paddedDigits width n
  have hne : paddedDigits width n ≠ [] := by
    rw [hrun]
    exact List.cons_ne_nil c run
  have h := SpellsNumber.digits (isDigits_paddedDigits width n) hne hlimit
  rwa [ofDigits_paddedDigits] at h

/-! ### White space in front of a number -/

theorem isWhiteSpace_of_visible {c : Char} (h : 0x20 < c.toNat ∧ c.toNat < 0x7F) : Unicode.isWhiteSpace c = false := by
  simp [Unicode.isWhiteSpace, Unicode.RangeTable.has, Unicode.whiteSpaceTable, Unicode.RangeTable.contains]
  omega

theorem isWhiteSpace_of_isDigit (h : c.isDigit = true) : Unicode.isWhiteSpace c = false := by
  simp only [Char.isDigit, Bool.and_eq_true, decide_eq_true_eq] at h
  refine isWhiteSpace_of_visible ⟨?_, ?_⟩
  · exact Nat.lt_of_lt_of_le (by decide : 0x20 < 48) h.1
  · exact Nat.lt_of_le_of_lt h.2 (by decide : 57 < 0x7F)

theorem isVisible_paddedDigits (width n : Nat) : IsVisible (paddedDigits width n) :=
  fun c hc => isWhiteSpace_of_isDigit (isDigits_paddedDigits width n c hc)

theorem trimStart_paddedDigits (width n : Nat) (rest : List Char) :
    trimStart (paddedDigits width n ++ rest) = paddedDigits width n ++ rest := by
  obtain ⟨c, run, hrun, hdigit⟩ := exists_paddedDigits width n
  rw [hrun, List.cons_append]
  exact trimStart_cons (isWhiteSpace_of_isDigit hdigit) _

end Text

end AlbumBrowser
