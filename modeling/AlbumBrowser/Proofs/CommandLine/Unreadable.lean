import AlbumBrowser.Proofs.CommandLine.Clocks
import AlbumBrowser.Proofs.CommandLine.Days

/-!
Albums whose timestamp cannot be read, under filters. Such an album has a fixed text in place of a date and of a time
of day, and that text is put through the comparisons as it stands. It is the text of no date, and it begins with a
letter, so as a text it comes after every time of day. A day and an upper bound therefore keep no such album, but
a lower bound turns none away: every unreadable timestamp counts as later than the bound.
-/

namespace AlbumBrowser

open Calendar CommandLine Text

variable {zone : ViewerZone} {a : Album} {c : Criteria} {raw : String}

/-- The text of an unreadable timestamp comes after every time of day in full width. -/
theorem Calendar.minuteKey_append_lt_unreadableText (n : Nat) (tail : String) :
    minuteKey n ++ tail < Zone.unreadableText := by
  obtain ⟨digit, run, hrun, hdigit⟩ := exists_paddedDigits 2 (n / 60)
  have hletter : digit < 'I' := by
    have hbound := (toNat_of_isDigit hdigit).2
    exact UInt32.lt_iff_toNat_lt.mpr (show digit.toNat < 73 by omega)
  have hmarker : Zone.unreadableText.toList = 'I' :: "nvalid Date".toList := by decide
  rw [String.lt_iff, hmarker]
  simp only [minuteKey, String.toList_append, String.toList_ofList, Layout.write, Layout.clock, Piece.write,
    Field.write, List.flatMap_cons, hrun, List.cons_append]
  exact List.cons_lt_cons_iff.mpr (Or.inl hletter)

namespace Album

variable {day start stop : Option String} {date first last : String}

section Unreadable

variable (hraw : a.timestamp = some (.unreadable raw))

include hraw

theorem dateKey_of_unreadable : zone.dateKey a.timestamp = some Zone.unreadableText := by
  rw [hraw]
  rfl

theorem clockKey_of_unreadable : zone.clockKey a.timestamp = some Zone.unreadableText := by
  rw [hraw]
  rfl

/-- No day finds an album whose timestamp cannot be read. -/
theorem matchesDate_of_unreadable (hday : Fills CommandLine.date day date) :
    a.matchesDate zone date = some (decide (day = none)) := by
  rcases hday with ⟨rfl, rfl⟩ | ⟨text, rfl, hread⟩
  · rfl
  · obtain ⟨d, -, hd, rfl⟩ := date_eq_ok_iff.mp hread
    obtain ⟨hne, hreadable⟩ := key_ne hd
    rw [matchesDate, if_neg hne, dateKey_of_unreadable hraw, Option.map_some, decide_eq_false hreadable.symm]
    rfl

/-- An album whose timestamp cannot be read is before no upper bound and behind every lower one. -/
theorem matchesTime_of_unreadable (hstart : Fills clock start first) (hstop : Fills clock stop last) :
    a.matchesTime zone first last = some (decide (stop = none)) := by
  have hdated : a.timestamp ≠ none := by
    rw [hraw]
    exact Option.some_ne_none _
  have hfrom : first = "" ∨ ¬ Zone.unreadableText < first ++ ":00" := by
    rcases hstart.minute with ⟨-, rfl⟩ | ⟨_, n, -, -, rfl⟩
    · exact Or.inl rfl
    · exact Or.inr (String.lt_asymm (minuteKey_append_lt_unreadableText n _))
  have hto : (last = "" ∨ ¬ last ++ ":00" < Zone.unreadableText) ↔ stop = none := by
    rcases hstop.minute with ⟨rfl, rfl⟩ | ⟨text, n, rfl, -, rfl⟩
    · exact iff_of_true (Or.inl rfl) rfl
    · refine iff_of_false ?_ (Option.some_ne_none text)
      rintro (hopen | hbefore)
      · exact minuteKey_ne n hopen
      · exact hbefore (minuteKey_append_lt_unreadableText n _)
  rw [matchesTime, if_neg hdated, clockKey_of_unreadable hraw, Option.map_some]
  exact congrArg some (decide_eq_decide.mpr ((and_iff_right hfrom).trans hto))

end Unreadable

/-- An album whose timestamp cannot be read is kept by a filter exactly if neither a day nor an upper bound is set and
it is described or wanted without a description. So a day or an upper bound keeps no such album, whatever else is
set, and a lower bound alone keeps every one that the description lets pass. -/
theorem unreadable_kept_iff (hday : Fills CommandLine.date day c.date) (hstart : Fills clock start c.startTime)
    (hstop : Fills clock stop c.endTime) (hraw : a.timestamp = some (.unreadable raw)) :
    c.admits zone a = some (decide (day = none ∧ stop = none ∧ (a.entries ≠ [] ∨ c.includeUndescribed = true))) ∧
    ∀ albums kept, a ∈ albums → c.keep zone albums = some kept →
      (a ∈ kept ↔ day = none ∧ stop = none ∧ (a.entries ≠ [] ∨ c.includeUndescribed = true)) := by
  have hdate : a.matchesDate zone c.date = some (decide (day = none)) := matchesDate_of_unreadable hraw hday
  have htime : a.matchesTime zone c.startTime c.endTime = some (decide (stop = none)) :=
    matchesTime_of_unreadable hraw hstart hstop
  have hpasses : c.Passes zone a ↔ day = none ∧ stop = none ∧ (a.entries ≠ [] ∨ c.includeUndescribed = true) := by
    rw [Criteria.Passes, hdate, htime, Option.some.injEq, Option.some.injEq, decide_eq_true_iff, decide_eq_true_iff]
  refine ⟨?_, ?_⟩
  · have hanswered : c.admits zone a ≠ none := by
      rw [Criteria.admits_ne_none_iff, hdate, htime]
      exact ⟨Option.some_ne_none _, fun _ => Option.some_ne_none _⟩
    obtain ⟨answer, hanswer⟩ := Option.ne_none_iff_exists'.mp hanswered
    have htrue : answer = true ↔ c.Passes zone a := by
      rw [← Criteria.admits_eq_some_true_iff, hanswer, Option.some.injEq]
    rw [hanswer, Option.some.injEq, Bool.eq_iff_iff, decide_eq_true_iff, htrue, hpasses]
  · intro albums kept ha hkeep
    obtain ⟨-, rfl⟩ := Criteria.keep_eq_some_iff.mp hkeep
    rw [List.mem_filter, and_iff_right ha, decide_eq_true_iff, hpasses]

/-- An album whose timestamp is no date, and one that was recorded at half past eight. -/
def unreadableFeed : String := "[\x7b\"ID\":1,\"fecha\":\"hier\"\x7d,\x7b\"ID\":2,\"fecha\":\"2024-01-05 08:30\"\x7d]"

def unreadableAlbum : Album := ⟨"1", some (.unreadable "hier"), none, [], []⟩

def morningAlbum : Album := ⟨"2", some (.wallClock ⟨1704443400, 0⟩), none, [], []⟩

theorem parse_unreadableFeed : Feed.parse unreadableFeed = .ok [unreadableAlbum, morningAlbum] := by decide +kernel

/-- An upper bound that lies behind the readable album keeps it and turns the unreadable one away. -/
theorem unreadable_kept_iff_before_nine : ∃ kept, Feed.parse unreadableFeed = .ok [unreadableAlbum, morningAlbum] ∧
    unreadableAlbum.timestamp = some (.unreadable "hier") ∧ clock "9:0" = .ok "09:00" ∧
    Criteria.keep { endTime := "09:00" } Zone.utc [unreadableAlbum, morningAlbum] = some kept ∧
    morningAlbum ∈ kept ∧ unreadableAlbum ∉ kept := by
  have hstop : clock "9:0" = .ok "09:00" := by decide +kernel
  have hkeep : Criteria.keep { endTime := "09:00" } Zone.utc [unreadableAlbum, morningAlbum] = some [morningAlbum] := by
    decide +kernel
  have hraw : unreadableAlbum.timestamp = some (.unreadable "hier") := rfl
  obtain ⟨-, hkept⟩ := unreadable_kept_iff (c := { endTime := "09:00" }) (Or.inl ⟨rfl, rfl⟩) (Or.inl ⟨rfl, rfl⟩)
    (Or.inr ⟨_, rfl, hstop⟩) hraw
  refine ⟨[morningAlbum], parse_unreadableFeed, hraw, hstop, hkeep, List.mem_singleton_self _, fun h => ?_⟩
  obtain ⟨-, hopen, -⟩ := (hkept _ _ List.mem_cons_self hkeep).mp h
  exact Option.some_ne_none _ hopen

/-- A lower bound that the readable album does not reach keeps the unreadable one. -/
theorem lower_bound_keeps_unreadable : Feed.parse unreadableFeed = .ok [unreadableAlbum, morningAlbum] ∧
    unreadableAlbum.timestamp = some (.unreadable "hier") ∧ clock "09:00" = .ok "09:00" ∧
    Criteria.keep { startTime := "09:00" } Zone.utc [unreadableAlbum, morningAlbum] = some [unreadableAlbum] :=
  ⟨parse_unreadableFeed, rfl, by decide +kernel, by decide +kernel⟩

end Album

end AlbumBrowser
