import AlbumBrowser.Proofs.Zone.Fields

/-!
Which texts name a zone. The documented notation is `Z` or `UTC` or a sign with hours and perhaps minutes behind it, in
digits only. Every text of that notation names the zone that it says, and an offset with a plus sign is never west of the
zero meridian, nor one with a minus sign east of it. But the fields are whole numbers with a sign of their own, and they
are bounded from above only. So a text is accepted beyond the notation exactly if a second sign stands in it, and then
the offset may lie on the other side, or so far below zero that its seconds leave the words that they are reckoned in and
nothing comes of the text at all.
-/

namespace AlbumBrowser.Zone

open Text

variable {zone : Zone} {offset : Int} {raw : String} {s : List Char} {c : Char}

/-- What a sign multiplies by. -/
def signOf (c : Char) : Int := if c = '+' then 1 else -1

/-- The names of the zero meridian, in any letter case. -/
def NamesZero (s : List Char) : Prop := s.map Char.toLower = ['z'] ∨ s.map Char.toLower = ['u', 't', 'c']

instance (s : List Char) : Decidable (NamesZero s) := inferInstanceAs (Decidable (_ ∨ _))

/-- The documented notation, with the offset that it names. -/
inductive Documented : Int → List Char → Prop
  | zero {t : List Char} (ht : NamesZero t) : Documented 0 t
  | fields {sign : Char} {hour minute : Nat} {t : List Char} (hsign : sign = '+' ∨ sign = '-')
      (ht : WritesFields hour minute t) (hhour : hour ≤ 23) (hminute : minute ≤ 59) :
      Documented (signOf sign * (3600 * hour + 60 * minute)) (sign :: t)

/-- The texts that are accepted, with the offset that they name. The fields are words of 32 bits. -/
inductive Spells : Int → List Char → Prop
  | zero {t : List Char} (ht : NamesZero t) : Spells 0 t
  | fields {sign : Char} {hours minutes : Int32} {t : List Char} (hsign : sign = '+' ∨ sign = '-')
      (ht : SpellsFields hours minutes t) (hhours : hours.toInt ≤ 23) (hminutes : minutes.toInt ≤ 59) :
      Spells (signOf sign * (3600 * hours.toInt + 60 * minutes.toInt)) (sign :: t)

/-- The texts whose offset leaves the words of 32 bits on the way. -/
inductive Overflows : List Char → Prop
  | fields {sign : Char} {hours minutes : Int32} {t : List Char} (hsign : sign = '+' ∨ sign = '-')
      (ht : SpellsFields hours minutes t) (hhours : hours.toInt ≤ 23) (hminutes : minutes.toInt ≤ 59)
      (hleaves : ¬ StaysInWords (signOf sign) hours.toInt minutes.toInt) : Overflows (sign :: t)

/-! ### Reading -/

theorem eq_of_offset_eq {zone zone' : Zone} (h : zone.offset = zone'.offset) : zone = zone' := by
  cases zone
  cases zone'
  cases h
  rfl

theorem ofSeconds?_eq_some_iff : ofSeconds? offset = some zone ↔ zone.offset = offset := by
  unfold ofSeconds?
  constructor
  · intro h
    split at h
    · cases h
      rfl
    · cases h
  · rintro rfl
    exact dif_pos ⟨zone.gt_neg_day, zone.lt_day⟩

theorem not_namesZero_of_sign (h : c = '+' ∨ c = '-') (s : List Char) : ¬ NamesZero (c :: s) := by
  rintro (hname | hname) <;> rcases h with rfl | rfl <;> cases List.head_eq_of_cons_eq hname

theorem toInt_sign (sign : Char) : (if sign = '+' then (1 : Int32) else -1).toInt = signOf sign := by
  unfold signOf
  split <;> rfl

theorem signOf_eq (sign : Char) : signOf sign = 1 ∨ signOf sign = -1 := by
  unfold signOf
  split
  · exact Or.inl rfl
  · exact Or.inr rfl

/-- From above the fields are near enough to zero; from below there are bounds to keep. -/
theorem staysInWords_iff {sign : Char} {hours minutes : Int} (hhours : hours ≤ 23) (hminutes : minutes ≤ 59) :
    StaysInWords (signOf sign) hours minutes ↔
      -596523 ≤ hours ∧ -35791394 ≤ minutes ∧ -2147483648 ≤ 3600 * hours + 60 * minutes := by
  constructor
  · rintro ⟨hofHours, hofMinutes, hsum, -⟩
    rw [fitsWord_iff] at hofHours hofMinutes hsum
    omega
  · rintro ⟨hlowHours, hlowMinutes, hlowSum⟩
    -- The sum is a number of minutes, and the least word is none, so the sum has an opposite among the words.
    have hsigned : FitsWord (signOf sign * (hours * 3600 + minutes * 60)) := by
      rcases signOf_eq sign with hsign | hsign <;> rw [hsign, fitsWord_iff] <;> omega
    refine ⟨?_, ?_, ?_, hsigned⟩ <;> rw [fitsWord_iff] <;> omega

/-- On the way to an offset of less than a day no step leaves the words. -/
theorem staysInWords_of_offset {sign : Char} {hours minutes : Int} (hhours : hours ≤ 23) (hminutes : minutes ≤ 59)
    (h : zone.offset = signOf sign * (3600 * hours + 60 * minutes)) : StaysInWords (signOf sign) hours minutes := by
  rw [staysInWords_iff hhours hminutes]
  have hlow := zone.gt_neg_day
  have hhigh := zone.lt_day
  rcases signOf_eq sign with hsign | hsign <;> rw [hsign] at h <;> omega

theorem seconds?_sign_eq_some_iff {sign : Char} {hours minutes word : Int32} :
    seconds? (if sign = '+' then 1 else -1) hours minutes = some word ↔
      StaysInWords (signOf sign) hours.toInt minutes.toInt ∧
        word.toInt = signOf sign * (3600 * hours.toInt + 60 * minutes.toInt) := by
  rw [seconds?_eq_some_iff, toInt_sign, Int.mul_comm hours.toInt, Int.mul_comm minutes.toInt]

theorem seconds?_sign_eq_none_iff {sign : Char} {hours minutes : Int32} :
    seconds? (if sign = '+' then 1 else -1) hours minutes = none ↔
      ¬ StaysInWords (signOf sign) hours.toInt minutes.toInt := by
  rw [seconds?_eq_none_iff, toInt_sign]

theorem parseTrimmed_of_namesZero (h : NamesZero s) : parseTrimmed s = some (some utc) := by
  cases s with
  | nil => exact absurd h (by decide)
  | cons c s => exact if_pos h

/-- Behind a sign the offset of two fields decides. -/
theorem parseTrimmed_of_fields {hours minutes : Int32} (hsign : c = '+' ∨ c = '-')
    (hfields : fields? s = some (hours, minutes)) : parseTrimmed (c :: s) =
      (seconds? (if c = '+' then 1 else -1) hours minutes).map fun offset => ofSeconds? offset.toInt := by
  have hname : ¬ ((c :: s).map Char.toLower = ['z'] ∨ (c :: s).map Char.toLower = ['u', 't', 'c']) :=
    not_namesZero_of_sign hsign s
  rw [parseTrimmed, if_neg hname, if_pos hsign, hfields]

/-- A text is a name of the zero meridian, a sign with two fields behind it, or refused. -/
theorem parseTrimmed_cases (s : List Char) : NamesZero s ∨
    (∃ (sign : Char) (t : List Char) (hours minutes : Int32), s = sign :: t ∧ (sign = '+' ∨ sign = '-') ∧
      fields? t = some (hours, minutes)) ∨
    parseTrimmed s = some none := by
  cases s with
  | nil => exact Or.inr (Or.inr rfl)
  | cons c t =>
      rw [parseTrimmed]
      split
      · rename_i hname
        exact Or.inl hname
      split
      · rename_i hsign
        cases hfields : fields? t with
        | none => exact Or.inr (Or.inr rfl)
        | some fields => exact Or.inr (Or.inl ⟨c, t, fields.1, fields.2, rfl, hsign, hfields⟩)
      · exact Or.inr (Or.inr rfl)

theorem parseTrimmed_eq_some_iff : parseTrimmed s = some (some zone) ↔ Spells zone.offset s := by
  constructor
  · intro h
    rcases parseTrimmed_cases s with hname | ⟨sign, t, hours, minutes, rfl, hsign, hfields⟩ | hrefused
    · rw [parseTrimmed_of_namesZero hname] at h
      cases h
      exact .zero hname
    · rw [parseTrimmed_of_fields hsign hfields] at h
      obtain ⟨offset, hoffset, hzone⟩ := Option.map_eq_some_iff.mp h
      obtain ⟨ht, hhours, hminutes⟩ := fields?_eq_some_iff.mp hfields
      rw [ofSeconds?_eq_some_iff.mp hzone, (seconds?_sign_eq_some_iff.mp hoffset).2]
      exact .fields hsign ht hhours hminutes
    · rw [hrefused] at h
      cases h
  · intro h
    generalize hoffset : zone.offset = offset at h
    cases h with
    | zero ht =>
        have hutc : zone = utc := eq_of_offset_eq hoffset
        rw [parseTrimmed_of_namesZero ht, hutc]
    | @fields sign hours minutes t hsign ht hhours hminutes =>
        have hstays := staysInWords_of_offset hhours hminutes hoffset
        obtain ⟨word, hword⟩ := hstays.signed.exists_word
        rw [Int.mul_comm hours.toInt, Int.mul_comm minutes.toInt] at hword
        rw [parseTrimmed_of_fields hsign (fields?_eq_some_iff.mpr ⟨ht, hhours, hminutes⟩),
          seconds?_sign_eq_some_iff.mpr ⟨hstays, hword⟩]
        exact congrArg some (ofSeconds?_eq_some_iff.mpr (hoffset.trans hword.symm))

theorem parseTrimmed_eq_none_iff : parseTrimmed s = none ↔ Overflows s := by
  constructor
  · intro h
    rcases parseTrimmed_cases s with hname | ⟨sign, t, hours, minutes, rfl, hsign, hfields⟩ | hrefused
    · rw [parseTrimmed_of_namesZero hname] at h
      cases h
    · rw [parseTrimmed_of_fields hsign hfields, Option.map_eq_none_iff, seconds?_sign_eq_none_iff] at h
      obtain ⟨ht, hhours, hminutes⟩ := fields?_eq_some_iff.mp hfields
      exact .fields hsign ht hhours hminutes h
    · rw [hrefused] at h
      cases h
  · rintro ⟨hsign, ht, hhours, hminutes, hleaves⟩
    rw [parseTrimmed_of_fields hsign (fields?_eq_some_iff.mpr ⟨ht, hhours, hminutes⟩),
      seconds?_sign_eq_none_iff.mpr hleaves]
    rfl

theorem parse_eq_ok_iff : parse raw = some (.ok zone) ↔ Spells zone.offset (trim raw.toList) := by
  rw [← parseTrimmed_eq_some_iff, parse]
  rcases parseTrimmed (trim raw.toList) with _ | _ | _ <;> simp

theorem parse_eq_none_iff : parse raw = none ↔ Overflows (trim raw.toList) := by
  rw [← parseTrimmed_eq_none_iff, parse, Option.map_eq_none_iff]

theorem parse_eq_error_iff {e : ZoneError} : parse raw = some (.error e) ↔
    (∀ zone : Zone, ¬ Spells zone.offset (trim raw.toList)) ∧ ¬ Overflows (trim raw.toList) ∧
      e = ⟨String.ofList (trim raw.toList)⟩ := by
  simp only [← parseTrimmed_eq_some_iff, ← parseTrimmed_eq_none_iff]
  rw [parse]
  rcases parseTrimmed (trim raw.toList) with _ | _ | zone
  · simp
  · simp [eq_comm]
  · simp

/-! ### The documented notation -/

/-- No sign behind the first character of a text. -/
def SignedOnce (s : List Char) : Prop := ∀ c ∈ s.tail, c ≠ '+' ∧ c ≠ '-'

theorem NamesZero.signedOnce (h : NamesZero s) : SignedOnce s := by
  intro c hc
  have hmem : c.toLower ∈ s.map Char.toLower := List.mem_map_of_mem (List.mem_of_mem_tail hc)
  have hletter : c.toLower ∈ ['z', 'u', 't', 'c'] := by
    rcases h with h | h <;> rw [h] at hmem
    · exact List.mem_append_left ['u', 't', 'c'] hmem
    · exact List.mem_cons_of_mem _ hmem
  constructor <;> rintro rfl <;> exact absurd hletter (by decide)

theorem WritesFields.unsigned {hour minute : Nat} (h : WritesFields hour minute s) : ∀ c ∈ s, c ≠ '+' ∧ c ≠ '-' := by
  have hdigit : ∀ {t : List Char}, IsDigits t → ∀ c ∈ t, c ≠ '+' ∧ c ≠ '-' := by
    intro t ht c hc
    constructor <;> rintro rfl <;> exact absurd (ht _ hc) (by decide)
  cases h with
  | hours ht => exact hdigit ht
  | minutes ht hne hu =>
      exact List.forall_mem_append.mpr ⟨hdigit ht, List.forall_mem_cons.mpr ⟨by decide, hdigit hu⟩⟩

/-- The documented notation is what is accepted without a second sign. -/
theorem documented_iff : Documented offset s ↔ Spells offset s ∧ SignedOnce s := by
  constructor
  · rintro (ht | ⟨hsign, ht, hhour, hminute⟩)
    · exact ⟨.zero ht, ht.signedOnce⟩
    · obtain ⟨hours, minutes, hfields, hhours, hminutes⟩ := ht.exists_words hhour hminute
      have hspells := Spells.fields hsign hfields (by omega) (by omega)
      rw [hhours, hminutes] at hspells
      exact ⟨hspells, ht.unsigned⟩
  · rintro ⟨ht | ⟨hsign, ht, hhours, hminutes⟩, honce⟩
    · exact .zero ht
    · obtain ⟨hour, minute, hfields, hhour, hminute⟩ := ht.exists_numbers honce
      rw [hhour] at hhours ⊢
      rw [hminute] at hminutes ⊢
      exact .fields hsign hfields (by omega) (by omega)

/-- Without a second sign no step leaves the words. -/
theorem Overflows.not_signedOnce (h : Overflows s) : ¬ SignedOnce s := by
  intro honce
  obtain ⟨hsign, ht, hhours, hminutes, hleaves⟩ := h
  obtain ⟨hour, minute, -, hhour, hminute⟩ := ht.exists_numbers honce
  rw [staysInWords_iff hhours hminutes, hhour, hminute] at hleaves
  omega

/-- The offset of the documented notation is a zone's, and it lies on the side that its sign says. -/
theorem Documented.bounds (h : Documented offset s) : -86400 < offset ∧ offset < 86400 ∧
    (s.head? = some '+' → 0 ≤ offset) ∧ (s.head? = some '-' → offset ≤ 0) := by
  cases h with
  | zero => exact ⟨by decide, by decide, fun _ => Int.le_refl 0, fun _ => Int.le_refl 0⟩
  | fields hsign ht hhour hminute =>
      rcases hsign with rfl | rfl
      · rw [show signOf '+' = 1 from rfl]
        refine ⟨by omega, by omega, fun _ => by omega, fun h => ?_⟩
        cases h
      · rw [show signOf '-' = -1 from rfl]
        refine ⟨by omega, by omega, fun h => ?_, fun _ => by omega⟩
        cases h

/-- A text names a zone exactly if it spells one, nothing comes of it exactly if its offset leaves the words of 32 bits,
and every other text is refused as it stands between the white space around it. All of the documented notation is
accepted and names the offset that it says, on the side of its sign. What is accepted beyond it are texts with a second
sign, and so is all that nothing comes of. -/
theorem accepts_notation_and_second_signs (raw : String) :
    (∀ zone, parse raw = some (.ok zone) ↔ Spells zone.offset (trim raw.toList)) ∧
    (parse raw = none ↔ Overflows (trim raw.toList)) ∧
    (∀ e, parse raw = some (.error e) ↔
      (∀ zone : Zone, ¬ Spells zone.offset (trim raw.toList)) ∧ ¬ Overflows (trim raw.toList) ∧
        e = ⟨String.ofList (trim raw.toList)⟩) ∧
    (∀ offset, Documented offset (trim raw.toList) →
      (∃ zone, parse raw = some (.ok zone) ∧ zone.offset = offset) ∧
      ((trim raw.toList).head? = some '+' → 0 ≤ offset) ∧ ((trim raw.toList).head? = some '-' → offset ≤ 0)) ∧
    (∀ zone, parse raw = some (.ok zone) →
      (Documented zone.offset (trim raw.toList) ↔ SignedOnce (trim raw.toList))) ∧
    (parse raw = none → ¬ SignedOnce (trim raw.toList)) := by
  refine ⟨fun zone => parse_eq_ok_iff, parse_eq_none_iff, fun e => parse_eq_error_iff, fun offset h => ?_,
    fun zone hparse => ?_, fun hnone => (parse_eq_none_iff.mp hnone).not_signedOnce⟩
  · obtain ⟨hlow, hhigh, heast, hwest⟩ := h.bounds
    have hzone : parse raw = some (.ok ⟨offset, hlow, hhigh⟩) := parse_eq_ok_iff.mpr (documented_iff.mp h).1
    exact ⟨⟨_, hzone, rfl⟩, heast, hwest⟩
  · rw [documented_iff, and_iff_right (parse_eq_ok_iff.mp hparse)]

/-- Hours with a sign of their own turn an offset to the east into one to the west. -/
theorem accepts_second_sign : (∃ zone, parse "+-5:00" = some (.ok zone) ∧ zone.offset = -18000) ∧
    ∀ offset, ¬ Documented offset (trim "+-5:00".toList) := by
  refine ⟨⟨⟨-18000, by decide, by decide⟩, by decide +kernel, rfl⟩, fun offset h => ?_⟩
  have hsigns : ¬ SignedOnce (trim "+-5:00".toList) := fun h => (h '-' (by decide)).2 rfl
  exact hsigns (documented_iff.mp h).2

end AlbumBrowser.Zone
