import AlbumBrowser.Proofs.Calendar.Clocks
import AlbumBrowser.Proofs.CommandLine.Filtering
import AlbumBrowser.Proofs.Text.FullWidth
import AlbumBrowser.Proofs.Timestamp.Keys

/-!
Times of day as options. A time of day may be typed with short numbers or white space and is put into its full width;
albums are then compared with it as texts, seconds and all. In full width the order of the texts is that of the
minutes of the day, and the seconds are written as zero on both sides. So an album lies between two bounds
just when its minute does.
-/

namespace AlbumBrowser

open Calendar Text

/-- The minute of the day that a time of day on the clock names. -/
inductive Calendar.SpellsMinute : Nat → List Char → Prop
  | clock {hour minute : Nat} {s : List Char} (h : SpellsClock hour minute s) (hhour : hour ≤ 23)
      (hminute : minute ≤ 59) : SpellsMinute (60 * hour + minute) s

/-- A minute of the day in full width. -/
def Calendar.minuteKey (n : Nat) : String :=
  String.ofList (Layout.clock.write { Civil.zero with hour := n / 60, minute := n % 60 })

/-- The minute of the day of an album on the viewer's clock. A timestamp that is absent or unreadable has none. -/
def Album.minute? (zone : ViewerZone) (a : Album) : Option Nat :=
  match a.timestamp with
  | some (.instant m) => some ((m.shift (zone.zoneAt m).offset).secondOfDay / 60)
  | some (.wallClock m) => some (m.secondOfDay / 60)
  | _ => none

namespace Calendar

variable {m n : Nat} {s : List Char}

theorem SpellsMinute.lt (h : SpellsMinute n s) : n < 1440 := by
  cases h
  omega

theorem SpellsMinute.unique (h : SpellsMinute m s) (h' : SpellsMinute n s) : n = m := by
  cases h with
  | clock h =>
      cases h' with
      | clock h' =>
          obtain ⟨rfl, rfl⟩ := h.unique h'
          rfl

theorem minuteKey_ne (n : Nat) : minuteKey n ≠ "" := by
  obtain ⟨c, run, hrun, -⟩ := exists_paddedDigits 2 (n / 60)
  intro h
  have hnil := congrArg String.toList h
  simp [minuteKey, Layout.write, Layout.clock, Piece.write, Field.write, hrun] at hnil

/-- Minutes of the day in full width are ordered as texts as the minutes are, whatever follows both. -/
theorem minuteKey_append_lt_iff (hm : m < 1440) (hn : n < 1440) (tail : String) :
    minuteKey m ++ tail < minuteKey n ++ tail ↔ m < n := by
  have hhour : ∀ {k : Nat}, k < 1440 → k / 60 < 10 ^ 2 := fun hk => by omega
  have hminute : ∀ k : Nat, k % 60 < 10 ^ 2 := fun k => by omega
  have hwidth : ∀ {k l : Nat}, k < 10 ^ 2 → l < 10 ^ 2 → (paddedDigits 2 k).length = (paddedDigits 2 l).length :=
    fun hk hl => (length_paddedDigits (by decide) hk).trans (length_paddedDigits (by decide) hl).symm
  rw [String.lt_iff]
  simp only [minuteKey, String.toList_append, String.toList_ofList, Layout.write, Layout.clock, Piece.write,
    Field.write, List.flatMap_cons, List.flatMap_nil, List.append_nil, List.append_assoc]
  rw [lt_append_iff (hwidth (hhour hm) (hhour hn)), lt_append_iff rfl, lt_append_iff (hwidth (hminute m) (hminute n)),
    paddedDigits_lt_iff (by decide) (hhour hm) (hhour hn), paddedDigits_lt_iff (by decide) (hminute m) (hminute n),
    paddedDigits_inj, paddedDigits_inj]
  have hsame : ¬ tail.toList < tail.toList := List.lt_irrefl _
  have hcolon : ¬ [':'] < [':'] := List.lt_irrefl _
  simp only [hsame, hcolon, and_false, or_false, false_or, true_and]
  omega

end Calendar

namespace CommandLine

variable {text key : String} {typed : Option String} {m n : Nat}

/-- The times of day that are accepted: the texts that name a minute of the day. -/
theorem clock_eq_ok_iff : clock text = .ok key ↔ ∃ n, SpellsMinute n text.toList ∧ key = minuteKey n := by
  have hkey : ∀ {hour minute : Nat}, minute ≤ 59 → minuteKey (60 * hour + minute) =
      String.ofList (Layout.clock.write { Civil.zero with hour := hour, minute := minute }) := by
    intro hour minute hminute
    rw [minuteKey, show (60 * hour + minute) / 60 = hour by omega, show (60 * hour + minute) % 60 = minute by omega]
  constructor
  · intro h
    unfold clock at h
    split at h
    · rename_i written hnormal
      cases h
      obtain ⟨c, hread, rfl⟩ := Option.map_eq_some_iff.mp hnormal
      obtain ⟨hour, minute, hspells, ⟨hhour, hminute⟩, rfl⟩ := Layout.clock_read_eq_some_iff.mp hread
      exact ⟨_, .clock hspells hhour hminute, (hkey hminute).symm⟩
    · cases h
  · rintro ⟨_, ⟨hspells, hhour, hminute⟩, rfl⟩
    rw [clock, normalize?, Layout.clock_read_eq_some_iff.mpr ⟨_, _, hspells, ⟨hhour, hminute⟩, rfl⟩, hkey hminute]
    rfl

/-- What a bound has been filled with: nothing, or the minute of the day that was typed. -/
theorem Fills.minute (h : Fills clock typed key) : (typed = none ∧ key = "") ∨
    ∃ text n, typed = some text ∧ SpellsMinute n text.toList ∧ key = minuteKey n := by
  rcases h with hopen | ⟨text, htyped, hread⟩
  · exact Or.inl hopen
  · obtain ⟨n, hspells, hkey⟩ := clock_eq_ok_iff.mp hread
    exact Or.inr ⟨text, n, htyped, hspells, hkey⟩

theorem Fills.clock_eq_ok (h : Fills clock typed key) (hne : typed ≠ none) : clock key = .ok key := by
  rcases h with ⟨hopen, -⟩ | ⟨text, -, hread⟩
  · exact absurd hopen hne
  · exact clock_idem hread

theorem Fills.existsUnique_minute (h : Fills clock typed key) : ∀ text ∈ typed, ∃! n, SpellsMinute n text.toList := by
  rintro text ⟨rfl⟩
  rcases h with ⟨hopen, -⟩ | ⟨_, htyped, hread⟩
  · cases hopen
  · cases htyped
    obtain ⟨n, hspells, -⟩ := clock_eq_ok_iff.mp hread
    exact ⟨n, hspells, fun _ h => hspells.unique h⟩

/-- A test that a bound in full width is put to is a test of the minute that was typed. An open bound is not tested. -/
theorem Fills.bound_iff {p : String → Prop} {q : Nat → Prop} (h : Fills clock typed key)
    (hpq : ∀ n, n < 1440 → (p (minuteKey n) ↔ q n)) :
    (key = "" ∨ p key) ↔ ∀ text ∈ typed, ∀ n, SpellsMinute n text.toList → q n := by
  rcases h.minute with ⟨rfl, rfl⟩ | ⟨text, n, rfl, hspells, rfl⟩
  · simp
  · rw [hpq n hspells.lt]
    simp only [minuteKey_ne, false_or]
    constructor
    · rintro hq _ ⟨rfl⟩ k hk
      rwa [hspells.unique hk]
    · intro hall
      exact hall text rfl n hspells

end CommandLine

namespace Album

open CommandLine

variable {zone : ViewerZone} {a : Album} {m : Nat}

theorem clockKey_of_minute? (hplaced : ¬ a.Beyond zone) (hminute : a.minute? zone = some m) :
    m < 1440 ∧ zone.clockKey a.timestamp = some (minuteKey m ++ ":00") := by
  -- The clock shows a moment, be it that of the viewer or its own.
  have hshown : ∀ k : Moment, k.secondOfDay / 60 < 1440 ∧
      String.ofList (Layout.clockKey.write k.civil) = minuteKey (k.secondOfDay / 60) ++ ":00" := by
    intro k
    have hday : k.secondOfDay < 86400 := by
      unfold Moment.secondOfDay
      omega
    refine ⟨by omega, ?_⟩
    have hhour : k.civil.hour = k.secondOfDay / 60 / 60 := (Nat.div_div_eq_div_mul _ 60 60).symm
    have hminute : k.civil.minute = k.secondOfDay / 60 % 60 := rfl
    rw [← String.toList_inj]
    simp [minuteKey, Layout.write, Layout.clockKey, Layout.clock, Piece.write, Field.write, hhour, hminute]
  rcases a with ⟨id, _ | (k | k | raw), description, folders, images⟩
  · cases hminute
  · cases hminute
    have hinside : (k.shift (zone.zoneAt k).offset).InCalendar := Decidable.not_not.mp hplaced
    exact ⟨(hshown _).1, (hshown _).2 ▸ ViewerZone.render_instant rfl hinside Layout.clockKey⟩
  · cases hminute
    exact ⟨(hshown k).1, congrArg some (hshown k).2⟩
  · cases hminute

/-- The texts of times of day are compared just as the minutes. A time of day that is accepted as a bound names one
minute of the day and is put into its full width, which is not changed by doing so again. An album with a readable
timestamp lies between two bounds, either of which may be left open, exactly if its minute of the day on the
viewer's clock does, both bounds included and seconds dropped. -/
theorem timed_by_minute (hplaced : ¬ a.Beyond zone) (hminute : a.minute? zone = some m)
    {start stop : Option String} {first last : String} (hstart : Fills clock start first)
    (hstop : Fills clock stop last) :
    (start ≠ none → clock first = .ok first) ∧ (stop ≠ none → clock last = .ok last) ∧
    (∀ text ∈ start, ∃! n, SpellsMinute n text.toList) ∧ (∀ text ∈ stop, ∃! n, SpellsMinute n text.toList) ∧
    a.matchesTime zone first last ≠ none ∧
    (a.matchesTime zone first last = some true ↔
      (∀ text ∈ start, ∀ n, SpellsMinute n text.toList → n ≤ m) ∧
      ∀ text ∈ stop, ∀ n, SpellsMinute n text.toList → m ≤ n) := by
  obtain ⟨hm, hkey⟩ := clockKey_of_minute? hplaced hminute
  have hdated : a.timestamp ≠ none := by
    intro hnone
    rw [minute?, hnone] at hminute
    cases hminute
  have hfrom := hstart.bound_iff (p := fun bound => ¬ minuteKey m ++ ":00" < bound ++ ":00") fun n hn =>
    (not_congr (minuteKey_append_lt_iff hm hn _)).trans Nat.not_lt
  have hto := hstop.bound_iff (p := fun bound => ¬ bound ++ ":00" < minuteKey m ++ ":00") fun n hn =>
    (not_congr (minuteKey_append_lt_iff hn hm _)).trans Nat.not_lt
  rw [matchesTime, if_neg hdated, hkey, Option.map_some]
  refine ⟨hstart.clock_eq_ok, hstop.clock_eq_ok, hstart.existsUnique_minute, hstop.existsUnique_minute,
    Option.some_ne_none _, ?_⟩
  rw [Option.some.injEq, decide_eq_true_iff]
  exact and_congr hfrom hto

/-- The last second before 1970 in a zone east of the zero meridian, between two bounds typed with short numbers, of
which the upper one is the very minute. -/
theorem timed_by_minute_before_epoch : ∃ (zone : Zone) (a : Album) (low high : Nat),
    zone.offset = 19800 ∧ a.timestamp = some (.instant ⟨-1, 0⟩) ∧ ¬ a.Beyond zone ∧ a.minute? zone = some 329 ∧
    clock " 5: 9" = .ok "05:09" ∧ clock "5:29" = .ok "05:29" ∧
    clock "05:09" = .ok "05:09" ∧ clock "05:29" = .ok "05:29" ∧
    SpellsMinute low " 5: 9".toList ∧ SpellsMinute high "5:29".toList ∧ low ≤ 329 ∧ 329 ≤ high ∧
    a.matchesTime zone "05:09" "05:29" = some true := by
  let zone : Zone := { offset := 19800 }
  let a : Album := ⟨"1", some (.instant ⟨-1, 0⟩), none, [], []⟩
  have hplaced : ¬ a.Beyond zone := by decide
  have hminute : a.minute? zone = some 329 := by decide
  have hstart : clock " 5: 9" = .ok "05:09" := by decide +kernel
  have hstop : clock "5:29" = .ok "05:29" := by decide +kernel
  have hinside : a.matchesTime zone "05:09" "05:29" = some true := by decide +kernel
  obtain ⟨hagain, hagain', hlow, hhigh, -, hbounds⟩ :=
    timed_by_minute hplaced hminute (Or.inr ⟨_, rfl, hstart⟩) (Or.inr ⟨_, rfl, hstop⟩)
  obtain ⟨low, hspells, -⟩ := hlow _ rfl
  obtain ⟨high, hspells', -⟩ := hhigh _ rfl
  obtain ⟨hfrom, hto⟩ := hbounds.mp hinside
  exact ⟨zone, a, low, high, rfl, rfl, hplaced, hminute, hstart, hstop, hagain (by decide), hagain' (by decide),
    hspells, hspells', hfrom _ rfl _ hspells, hto _ rfl _ hspells', hinside⟩

end Album

end AlbumBrowser
