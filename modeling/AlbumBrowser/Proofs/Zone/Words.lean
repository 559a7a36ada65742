import AlbumBrowser.Proofs.Zone.Accepted

/-!
When the offset of a text stays in words of 32 bits. The fields are bounded from above, so nothing overflows upwards; but a
field with a minus sign of its own may lie so far below zero that its seconds are no word any more. Without a second sign
this does not happen. While every step stays in the words, the bound of a day is asked of the exact offset; where a step
leaves them, it is not asked at all, though the exact offset is no zone's.
-/

namespace AlbumBrowser.Zone

open Text

variable {offset : Int} {sign : Char} {s : List Char} {hours minutes : Int32}

/-- Two fields behind a sign name one offset only. -/
theorem spells_iff_of_fields (hsign : sign = '+' ∨ sign = '-') (hfields : fields? s = some (hours, minutes)) :
    Spells offset (sign :: s) ↔ offset = signOf sign * (3600 * hours.toInt + 60 * minutes.toInt) := by
  constructor
  · intro h
    cases h with
    | zero hname => exact absurd hname (not_namesZero_of_sign hsign s)
    | fields hsign' ht hhours hminutes =>
        have hfields' := fields?_eq_some_iff.mpr ⟨ht, hhours, hminutes⟩
        rw [hfields] at hfields'
        cases hfields'
        rfl
  · rintro rfl
    obtain ⟨ht, hhours, hminutes⟩ := fields?_eq_some_iff.mp hfields
    exact .fields hsign ht hhours hminutes

/-- And they overflow in one way only. -/
theorem overflows_iff_of_fields (hsign : sign = '+' ∨ sign = '-') (hfields : fields? s = some (hours, minutes)) :
    Overflows (sign :: s) ↔ ¬ StaysInWords (signOf sign) hours.toInt minutes.toInt := by
  obtain ⟨ht, hhours, hminutes⟩ := fields?_eq_some_iff.mp hfields
  constructor
  · rintro ⟨-, ht', hhours', hminutes', hleaves⟩
    have hfields' := fields?_eq_some_iff.mpr ⟨ht', hhours', hminutes'⟩
    rw [hfields] at hfields'
    cases hfields'
    exact hleaves
  · exact .fields hsign ht hhours hminutes

/-- Every step stays in the words exactly if the fields keep three bounds from below, and they do without a second sign.
Then the text names the zone with its exact offset, or is refused if there is none. Otherwise nothing comes of the text,
although its fields have passed their test and its exact offset is no zone's. -/
theorem names_exact_offset_within_words {raw : String} (htrim : trim raw.toList = sign :: s)
    (hsign : sign = '+' ∨ sign = '-') (hfields : fields? s = some (hours, minutes)) :
    (StaysInWords (signOf sign) hours.toInt minutes.toInt ↔
      -596523 ≤ hours.toInt ∧ -35791394 ≤ minutes.toInt ∧ -2147483648 ≤ 3600 * hours.toInt + 60 * minutes.toInt) ∧
    (SignedOnce (trim raw.toList) → StaysInWords (signOf sign) hours.toInt minutes.toInt) ∧
    (StaysInWords (signOf sign) hours.toInt minutes.toInt →
      (∀ zone, parse raw = some (.ok zone) ↔
        zone.offset = signOf sign * (3600 * hours.toInt + 60 * minutes.toInt)) ∧
      ((∃ e, parse raw = some (.error e)) ↔
        ∀ zone : Zone, zone.offset ≠ signOf sign * (3600 * hours.toInt + 60 * minutes.toInt))) ∧
    (¬ StaysInWords (signOf sign) hours.toInt minutes.toInt →
      parse raw = none ∧ ∀ zone : Zone, zone.offset ≠ signOf sign * (3600 * hours.toInt + 60 * minutes.toInt)) := by
  obtain ⟨-, hhours, hminutes⟩ := fields?_eq_some_iff.mp hfields
  have hnone : parse raw = none ↔ ¬ StaysInWords (signOf sign) hours.toInt minutes.toInt := by
    rw [parse_eq_none_iff, htrim, overflows_iff_of_fields hsign hfields]
  refine ⟨staysInWords_iff hhours hminutes, fun honce => ?_, fun hstays => ⟨fun zone => ?_, ?_⟩,
    fun hleaves => ⟨hnone.mpr hleaves, fun zone hoffset => hleaves (staysInWords_of_offset hhours hminutes hoffset)⟩⟩
  · by_contra hleaves
    exact (parse_eq_none_iff.mp (hnone.mpr hleaves)).not_signedOnce honce
  · rw [parse_eq_ok_iff, htrim, spells_iff_of_fields hsign hfields]
  · simp only [parse_eq_error_iff, htrim, spells_iff_of_fields hsign hfields, overflows_iff_of_fields hsign hfields]
    constructor
    · rintro ⟨e, hnot, -⟩
      exact hnot
    · exact fun hnot => ⟨_, hnot, not_not_intro hstays, rfl⟩

/-- Hours and minutes that are words in seconds each, but together are none. -/
theorem has_no_outcome_beyond_words :
    (FitsWord (-596523 * 3600) ∧ FitsWord (-15 * 60) ∧ ¬ StaysInWords (signOf '-') (-596523) (-15)) ∧
    parse "\t--596523:-15" = none ∧ ∀ zone : Zone, zone.offset ≠ 2147483700 := by
  have htrim : trim "\t--596523:-15".toList = '-' :: "-596523:-15".toList := by decide
  have hfields : fields? "-596523:-15".toList = some (-596523, -15) := by decide
  obtain ⟨hbounds, -, -, hbeyond⟩ := names_exact_offset_within_words htrim (Or.inr rfl) hfields
  have hleaves : ¬ StaysInWords (signOf '-') (-596523 : Int32).toInt (-15 : Int32).toInt := fun h =>
    absurd (hbounds.mp h).2.2 (by decide)
  exact ⟨⟨by decide, by decide, hleaves⟩, hbeyond hleaves⟩

/-- Hours that pass their test, although their seconds are no word. -/
theorem hours_leave_words : fields? "-1193046".toList = some (-1193046, 0) ∧
    ¬ FitsWord ((-1193046 : Int32).toInt * 3600) ∧ parse "+-1193046" = none :=
  ⟨by decide, by decide, by decide⟩

end AlbumBrowser.Zone
