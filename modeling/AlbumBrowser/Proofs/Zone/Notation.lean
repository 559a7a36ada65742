import AlbumBrowser.Proofs.Calendar.OffsetTimes
import AlbumBrowser.Proofs.Zone.Accepted

/-!
Zones in full width. A sign with hours and minutes behind it is of the documented notation, so it names the zone with
that offset; timestamps with an offset are written with the same texts.
-/

namespace AlbumBrowser

open Calendar Text

variable {hour minute : Nat} {t : List Char} {sign : Char}

theorem Text.WritesNumber.ne_nil {width n : Nat} (h : WritesNumber width n t) (hwidth : 0 < width) : t ≠ [] :=
  List.ne_nil_of_length_pos (h.length_eq ▸ hwidth)

theorem Calendar.WritesClock.writesFields (h : WritesClock hour minute t) : Zone.WritesFields hour minute t := by
  obtain ⟨ht, hu⟩ := h
  have hhour := (writesNumber_iff.mp ht).2
  have hminute := (writesNumber_iff.mp hu).2
  rw [← hhour, ← hminute]
  exact .minutes ht.isDigits (ht.ne_nil (by decide)) hu.isDigits (hu.ne_nil (by decide))

namespace Zone

/-- The offset that a sign, hours and minutes name. -/
def writtenOffset (sign : Char) (hour minute : Nat) : Int :=
  if sign = '+' then 3600 * hour + 60 * minute else -(3600 * hour + 60 * minute)

theorem writtenOffset_eq (sign : Char) (hour minute : Nat) :
    writtenOffset sign hour minute = signOf sign * (3600 * hour + 60 * minute) := by
  unfold writtenOffset signOf
  split <;> omega

theorem spellsOffset_writtenOffset (hsign : sign = '+' ∨ sign = '-') (h : WritesClock hour minute t) (hhour : hour ≤ 23)
    (hminute : minute ≤ 59) : SpellsOffset (writtenOffset sign hour minute) (sign :: t) := by
  rcases hsign with rfl | rfl
  · exact .east h hhour hminute
  · exact .west (Or.inl rfl) h hhour hminute

/-- A sign and hours and minutes in full width name the zone with that offset. -/
theorem exists_of_writesClock (hsign : sign = '+' ∨ sign = '-') (h : WritesClock hour minute t) (hhour : hour ≤ 23)
    (hminute : minute ≤ 59) : ∃ zone : Zone, parse (String.ofList (sign :: t)) = some (.ok zone) ∧
      zone.offset = writtenOffset sign hour minute := by
  have hvisible : IsVisible (sign :: t) :=
    List.forall_mem_cons.mpr ⟨by rcases hsign with rfl | rfl <;> decide, h.isVisible⟩
  have hdocumented : Documented (writtenOffset sign hour minute) (sign :: t) := by
    rw [writtenOffset_eq]
    exact .fields hsign h.writesFields hhour hminute
  obtain ⟨hlow, hhigh, -⟩ := hdocumented.bounds
  refine ⟨⟨_, hlow, hhigh⟩, parse_eq_ok_iff.mpr ?_, rfl⟩
  rw [String.toList_ofList, trim_eq_self hvisible.isTrimmed]
  exact (documented_iff.mp hdocumented).1

end Zone

end AlbumBrowser
