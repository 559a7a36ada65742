import AlbumBrowser.Proofs.Text.Digits
import AlbumBrowser.Zone

/-!
The two fields of an offset. Each is a whole number that fits a word of 32 bits, and it may have a sign of its own in
front of it, for the reader of whole numbers takes one. Hours stand alone or have minutes behind a colon. The seconds
are reckoned in words step by step: they are what the fields make among the integers, as long as every step fits a
word, and there are none if one does not.
-/

namespace AlbumBrowser

namespace Text

variable {n : Int} {s t : List Char} {c : Char}

/-- A whole number: digits, at least one, with at most one sign in front of them. -/
inductive SpellsInteger : Int → List Char → Prop
  | plain {run : List Char} (hdigits : IsDigits run) (hne : run ≠ []) : SpellsInteger (ofDigits run) run
  | plus {run : List Char} (hdigits : IsDigits run) (hne : run ≠ []) : SpellsInteger (ofDigits run) ('+' :: run)
  | minus {run : List Char} (hdigits : IsDigits run) (hne : run ≠ []) : SpellsInteger (-ofDigits run) ('-' :: run)

theorem number?_eq_some_iff {n : Nat} : number? s = some n ↔ IsDigits s ∧ s ≠ [] ∧ ofDigits s = n := by
  rw [number?, Option.ite_none_right_eq_some, List.all_eq_true, Option.some.injEq, and_assoc, and_left_comm]
  rfl

theorem signedNumber?_plain (hdigits : IsDigits s) : signedNumber? s = (number? s).map Int.ofNat := by
  unfold signedNumber?
  split
  · exact absurd (hdigits '+' List.mem_cons_self) (by decide)
  · exact absurd (hdigits '-' List.mem_cons_self) (by decide)
  · rfl

theorem signedNumber?_eq_some_iff : signedNumber? s = some n ↔ SpellsInteger n s := by
  constructor
  · intro h
    unfold signedNumber? at h
    split at h <;> obtain ⟨value, hvalue, rfl⟩ := Option.map_eq_some_iff.mp h <;>
      obtain ⟨hdigits, hne, rfl⟩ := number?_eq_some_iff.mp hvalue
    · exact .plus hdigits hne
    · exact .minus hdigits hne
    · exact .plain hdigits hne
  · rintro (⟨hdigits, hne⟩ | ⟨hdigits, hne⟩ | ⟨hdigits, hne⟩)
    · rw [signedNumber?_plain hdigits, number?_eq_some_iff.mpr ⟨hdigits, hne, rfl⟩]
      rfl
    · rw [signedNumber?, number?_eq_some_iff.mpr ⟨hdigits, hne, rfl⟩]
      rfl
    · rw [signedNumber?, number?_eq_some_iff.mpr ⟨hdigits, hne, rfl⟩]
      rfl

theorem SpellsInteger.digit_or_sign (h : SpellsInteger n t) (hc : c ∈ t) : c.isDigit = true ∨ c = '+' ∨ c = '-' := by
  cases h with
  | plain hdigits => exact Or.inl (hdigits c hc)
  | plus hdigits => exact (List.mem_cons.mp hc).elim (Or.inr ∘ Or.inl) fun hrun => Or.inl (hdigits c hrun)
  | minus hdigits => exact (List.mem_cons.mp hc).elim (Or.inr ∘ Or.inr) fun hrun => Or.inl (hdigits c hrun)

theorem SpellsInteger.colon_notMem (h : SpellsInteger n t) : ':' ∉ t := fun hcolon =>
  absurd (h.digit_or_sign hcolon) (by decide)

/-- Without a sign a whole number is a number. -/
theorem SpellsInteger.plain_of_unsigned (h : SpellsInteger n t) (hsign : ∀ c ∈ t, c ≠ '+' ∧ c ≠ '-') :
    IsDigits t ∧ t ≠ [] ∧ ofDigits t = n := by
  cases h with
  | plain hdigits hne => exact ⟨hdigits, hne, rfl⟩
  | plus => exact absurd rfl (hsign '+' List.mem_cons_self).1
  | minus => exact absurd rfl (hsign '-' List.mem_cons_self).2

end Text

namespace Zone

open Text

variable {hour minute : Nat} {n : Int} {s : List Char} {word sign hours minutes : Int32}

/-! ### Words -/

theorem fitsWord_iff : FitsWord n ↔ -2147483648 ≤ n ∧ n ≤ 2147483647 := Iff.rfl

theorem fitsWord_toInt (word : Int32) : FitsWord word.toInt := ⟨word.minValue_le_toInt, word.toInt_le⟩

theorem toWord?_eq_some_iff : toWord? n = some word ↔ word.toInt = n := by
  rw [toWord?, Option.ite_none_right_eq_some]
  constructor
  · rintro ⟨⟨hlow, hhigh⟩, hword⟩
    rw [← Option.some.inj hword, Int32.toInt_ofInt_of_le hlow (Int.lt_add_one_iff.mpr hhigh)]
  · rintro rfl
    exact ⟨fitsWord_toInt word, congrArg some (Int32.ofInt_toInt word)⟩

theorem FitsWord.exists_word (h : FitsWord n) : ∃ word : Int32, word.toInt = n :=
  ⟨Int32.ofInt n, toWord?_eq_some_iff.mp (if_pos h)⟩

/-! ### Fields -/

/-- The fields of an offset, as the words that they are read as. -/
inductive SpellsFields : Int32 → Int32 → List Char → Prop
  /-- Hours alone. -/
  | hours {hours : Int32} {t : List Char} (ht : SpellsInteger hours.toInt t) : SpellsFields hours 0 t
  /-- Hours and minutes, with a colon between them. -/
  | minutes {hours minutes : Int32} {t u : List Char} (ht : SpellsInteger hours.toInt t)
      (hu : SpellsInteger minutes.toInt u) : SpellsFields hours minutes (t ++ ':' :: u)

/-- A whole number is read as a word, if it fits. -/
theorem word?_eq_some_iff : word? s = some word ↔ SpellsInteger word.toInt s := by
  rw [← signedNumber?_eq_some_iff, word?, Option.bind_eq_some_iff]
  constructor
  · rintro ⟨n, hn, hword⟩
    rw [hn, toWord?_eq_some_iff.mp hword]
  · exact fun h => ⟨word.toInt, h, toWord?_eq_some_iff.mpr rfl⟩

/-- The words are read before their bounds are looked at. Where the colon is missing, minutes are read off a zero. -/
theorem words_iff : word? ((cut? ':' s).getD (s, ['0'])).1 = some hours ∧
    word? ((cut? ':' s).getD (s, ['0'])).2 = some minutes ↔ SpellsFields hours minutes s := by
  have hzero : word? ['0'] = some 0 := by decide
  constructor
  · rintro ⟨hhours, hminutes⟩
    cases hcut : cut? ':' s with
    | none =>
        rw [hcut, Option.getD_none] at hhours hminutes
        rw [hzero] at hminutes
        cases hminutes
        exact .hours (word?_eq_some_iff.mp hhours)
    | some pieces =>
        rw [hcut, Option.getD_some] at hhours hminutes
        obtain ⟨-, rfl⟩ := cut?_eq_some_iff.mp hcut
        exact .minutes (word?_eq_some_iff.mp hhours) (word?_eq_some_iff.mp hminutes)
  · intro h
    cases h with
    | hours ht =>
        have hcut : cut? ':' s = none := by
          refine Option.eq_none_iff_forall_ne_some.mpr fun pieces hcut => ?_
          obtain ⟨-, rfl⟩ := cut?_eq_some_iff.mp hcut
          exact ht.colon_notMem (List.mem_append_right _ List.mem_cons_self)
        rw [hcut]
        exact ⟨word?_eq_some_iff.mpr ht, hzero⟩
    | minutes ht hu =>
        rw [cut?_eq_some_iff.mpr ⟨ht.colon_notMem, rfl⟩]
        exact ⟨word?_eq_some_iff.mpr ht, word?_eq_some_iff.mpr hu⟩

/-- Just the texts that spell two fields are read, and of these the ones whose fields are not too large. -/
theorem fields?_eq_some_iff : fields? s = some (hours, minutes) ↔
    SpellsFields hours minutes s ∧ hours.toInt ≤ 23 ∧ minutes.toInt ≤ 59 := by
  have hbounds : ¬(hours > 23 ∨ minutes > 59) ↔ hours.toInt ≤ 23 ∧ minutes.toInt ≤ 59 := by
    rw [not_or, Int32.not_lt, Int32.not_lt, Int32.le_iff_toInt_le, Int32.le_iff_toInt_le]
    rfl
  rw [← words_iff, ← hbounds, fields?]
  simp only [Option.bind_eq_bind, Option.bind_eq_some_iff, Option.ite_none_left_eq_some, Option.some.injEq,
    Prod.mk.injEq]
  constructor
  · rintro ⟨h, hhours, m, hminutes, hin, rfl, rfl⟩
    exact ⟨⟨hhours, hminutes⟩, hin⟩
  · rintro ⟨⟨hhours, hminutes⟩, hin⟩
    exact ⟨hours, hhours, minutes, hminutes, hin, rfl, rfl⟩

/-! ### Fields without signs -/

/-- Fields in digits alone. -/
inductive WritesFields : Nat → Nat → List Char → Prop
  | hours {t : List Char} (ht : IsDigits t) (hne : t ≠ []) : WritesFields (ofDigits t) 0 t
  | minutes {t u : List Char} (ht : IsDigits t) (hne : t ≠ []) (hu : IsDigits u) (hne' : u ≠ []) :
      WritesFields (ofDigits t) (ofDigits u) (t ++ ':' :: u)

/-- On the clock the fields are words. -/
theorem WritesFields.exists_words (h : WritesFields hour minute s) (hhour : hour ≤ 23) (hminute : minute ≤ 59) :
    ∃ hours minutes, SpellsFields hours minutes s ∧ hours.toInt = hour ∧ minutes.toInt = minute := by
  have hfits : ∀ n : Nat, n ≤ 59 → FitsWord n := by
    intro n hn
    rw [fitsWord_iff]
    omega
  obtain ⟨hours, hhours⟩ := (hfits hour (hhour.trans (by decide))).exists_word
  obtain ⟨minutes, hminutes⟩ := (hfits minute hminute).exists_word
  cases h with
  | hours ht hne =>
      refine ⟨hours, 0, .hours ?_, hhours, rfl⟩
      rw [hhours]
      exact .plain ht hne
  | minutes ht hne hu hne' =>
      refine ⟨hours, minutes, .minutes ?_ ?_, hhours, hminutes⟩
      · rw [hhours]
        exact .plain ht hne
      · rw [hminutes]
        exact .plain hu hne'

theorem SpellsFields.exists_numbers (h : SpellsFields hours minutes s) (hsign : ∀ c ∈ s, c ≠ '+' ∧ c ≠ '-') :
    ∃ hour minute : Nat, WritesFields hour minute s ∧ hours.toInt = hour ∧ minutes.toInt = minute := by
  cases h with
  | hours ht =>
      obtain ⟨hdigits, hne, hvalue⟩ := ht.plain_of_unsigned hsign
      exact ⟨_, _, .hours hdigits hne, hvalue.symm, rfl⟩
  | minutes ht hu =>
      obtain ⟨hbefore, hafter⟩ := List.forall_mem_append.mp hsign
      obtain ⟨hdigits, hne, hvalue⟩ := ht.plain_of_unsigned hbefore
      obtain ⟨hdigits', hne', hvalue'⟩ := hu.plain_of_unsigned fun c hc => hafter c (List.mem_cons_of_mem _ hc)
      exact ⟨_, _, .minutes hdigits hne hdigits' hne', hvalue.symm, hvalue'.symm⟩

/-! ### The offset -/

/-- No step from a sign, hours and minutes to their offset leaves the words, if it is reckoned among the integers. -/
structure StaysInWords (sign hours minutes : Int) : Prop where
  ofHours : FitsWord (hours * 3600)
  ofMinutes : FitsWord (minutes * 60)
  sum : FitsWord (hours * 3600 + minutes * 60)
  signed : FitsWord (sign * (hours * 3600 + minutes * 60))

/-- Words that are reckoned with as integers are come to the same, unless a step leaves them. -/
theorem seconds?_eq_some_iff : seconds? sign hours minutes = some word ↔
    StaysInWords sign.toInt hours.toInt minutes.toInt ∧
      word.toInt = sign.toInt * (hours.toInt * 3600 + minutes.toInt * 60) := by
  simp only [seconds?, Option.bind_eq_bind, Option.bind_eq_some_iff, toWord?_eq_some_iff]
  constructor
  · rintro ⟨ofHours, hhours, ofMinutes, hminutes, sum, hsum, hword⟩
    rw [hhours, hminutes] at hsum
    rw [hsum] at hword
    exact ⟨⟨hhours ▸ fitsWord_toInt ofHours, hminutes ▸ fitsWord_toInt ofMinutes, hsum ▸ fitsWord_toInt sum,
      hword ▸ fitsWord_toInt word⟩, hword⟩
  · rintro ⟨hstays, hword⟩
    obtain ⟨ofHours, hhours⟩ := hstays.ofHours.exists_word
    obtain ⟨ofMinutes, hminutes⟩ := hstays.ofMinutes.exists_word
    obtain ⟨sum, hsum⟩ := hstays.sum.exists_word
    refine ⟨ofHours, hhours, ofMinutes, hminutes, sum, ?_, ?_⟩
    · rw [hhours, hminutes, hsum]
    · rw [hsum, hword]

theorem seconds?_eq_none_iff : seconds? sign hours minutes = none ↔
    ¬ StaysInWords sign.toInt hours.toInt minutes.toInt := by
  constructor
  · intro hnone hstays
    obtain ⟨word, hword⟩ := hstays.signed.exists_word
    rw [seconds?_eq_some_iff.mpr ⟨hstays, hword⟩] at hnone
    cases hnone
  · intro hleaves
    refine Option.eq_none_iff_forall_ne_some.mpr fun word hword => ?_
    exact hleaves (seconds?_eq_some_iff.mp hword).1

end Zone

end AlbumBrowser
