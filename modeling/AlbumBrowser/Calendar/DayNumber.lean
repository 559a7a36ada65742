import AlbumBrowser.Calendar.Moment

/-!
Dates and day numbers name each other. The years from March to March tile the day numbers, and within one
of them the months are told apart by where they start; both facts together give the date back from its day
number and the day number back from its date. A written date and time is read off the moment that it names.
-/

namespace AlbumBrowser.Calendar

namespace Date

/-- The length of the year from 1 March of one year to the end of February of the next. -/
def marchLength (year : Int) : Nat := if isLeapYear (year + 1) then 366 else 365

theorem isLeapYear_iff (year : Int) :
    isLeapYear year = true ↔ year % 4 = 0 ∧ (year % 100 ≠ 0 ∨ year % 400 = 0) := by
  simp [isLeapYear]

theorem lt_marchLength_iff (year : Int) (days : Nat) :
    days < marchLength year ↔ days < 365 ∨ days = 365 ∧ isLeapYear (year + 1) = true := by
  unfold marchLength
  split
  · rename_i hleap
    simp only [hleap, and_true]
    omega
  · rename_i hcommon
    simp only [hcommon, Bool.false_eq_true, and_false, or_false]

/-- What the quotients and remainders of a day by the lengths of its cycles make up. -/
theorem splitYear_parts (q : Int) {c f y d a b : Nat} (hc : c ≤ 3)
    (h1 : a < 36524 ∨ a = 36524 ∧ c = 3) (h2 : a = 1461 * f + b) (h3 : b < 1461) (hy : y ≤ 3)
    (h4 : b = 365 * y + d) (h5 : d < 365 ∨ d = 365 ∧ y = 3) :
    yearStart (400 * q + (100 * c + 4 * f + y : Nat)) + d = 146097 * q + (36524 * c + a : Nat) ∧
      d < marchLength (400 * q + (100 * c + 4 * f + y : Nat)) := by
  have hf : f ≤ 24 := by omega
  have e4 : (400 * q + (100 * c + 4 * f + y : Nat)) / 4 = 100 * q + 25 * c + f := by omega
  have e100 : (400 * q + (100 * c + 4 * f + y : Nat)) / 100 = 4 * q + c := by omega
  have e400 : (400 * q + (100 * c + 4 * f + y : Nat)) / 400 = q := by omega
  constructor
  · unfold yearStart
    rw [e4, e100, e400]
    omega
  · rw [lt_marchLength_iff, isLeapYear_iff]
    omega

/-- A day lies in the year that it is assigned to. -/
theorem yearStart_splitYear (days : Int) :
    yearStart (splitYear days).1 + (splitYear days).2 = days ∧
      (splitYear days).2 < marchLength (splitYear days).1 := by
  have hr0 : 0 ≤ days % 146097 := Int.emod_nonneg _ (by decide)
  have hr1 : days % 146097 < 146097 := Int.emod_lt_of_pos _ (by decide)
  have hq : 146097 * (days / 146097) + days % 146097 = days := Int.mul_ediv_add_emod _ _
  obtain ⟨r, hr⟩ := Int.eq_ofNat_of_zero_le hr0
  have := splitYear_parts (days / 146097) (c := min 3 (r / 36524)) (a := r - 36524 * min 3 (r / 36524))
    (f := (r - 36524 * min 3 (r / 36524)) / 1461) (b := (r - 36524 * min 3 (r / 36524)) % 1461)
    (y := min 3 ((r - 36524 * min 3 (r / 36524)) % 1461 / 365))
    (d := (r - 36524 * min 3 (r / 36524)) % 1461 - 365 * min 3 ((r - 36524 * min 3 (r / 36524)) % 1461 / 365))
    (by omega) (by omega) (by omega) (by omega) (by omega) (by omega) (by omega)
  simp only [splitYear, hr, Int.toNat_natCast]
  refine ⟨this.1.trans ?_, this.2⟩
  omega

theorem marchLength_pos (year : Int) : 365 ≤ marchLength year := by
  unfold marchLength
  split <;> omega

theorem yearStart_succ (year : Int) : yearStart (year + 1) = yearStart year + marchLength year := by
  unfold yearStart marchLength
  split <;> rename_i h <;> simp only [isLeapYear_iff] at h <;> omega

theorem yearStart_mono {year year' : Int} (h : year < year') :
    yearStart year + marchLength year ≤ yearStart year' := by
  rw [← yearStart_succ]
  unfold yearStart
  omega

theorem splitYear_yearStart {year : Int} {days : Nat} (h : days < marchLength year) :
    splitYear (yearStart year + days) = (year, days) := by
  obtain ⟨hsum, hlt⟩ := yearStart_splitYear (yearStart year + days)
  have hyear : (splitYear (yearStart year + days)).1 = year := by
    generalize splitYear (yearStart year + days) = s at *
    rcases Int.lt_trichotomy s.1 year with hs | hs | hs
    · have := yearStart_mono hs
      omega
    · exact hs
    · have := yearStart_mono hs
      omega
  rw [hyear] at hsum
  exact Prod.ext hyear (by omega)

theorem marchYear_ofMarchMonth {months : Nat} (h : months ≤ 11) (year : Int) (day : Nat) :
    (ofMarchMonth year months day).marchYear = year := by
  unfold ofMarchMonth marchYear
  split <;> simp only <;> split <;> omega

theorem marchMonth_ofMarchMonth {months : Nat} (h : months ≤ 11) (year : Int) (day : Nat) :
    (ofMarchMonth year months day).marchMonth = months := by
  unfold ofMarchMonth marchMonth
  split <;> simp only <;> omega

@[simp] theorem day_ofMarchMonth (year : Int) (months day : Nat) : (ofMarchMonth year months day).day = day := by
  unfold ofMarchMonth
  split <;> rfl

theorem ofMarchMonth_marchMonth {d : Date} (h : 1 ≤ d.month ∧ d.month ≤ 12) :
    ofMarchMonth d.marchYear d.marchMonth d.day = d := by
  obtain ⟨year, month, day⟩ := d
  simp only at h
  unfold ofMarchMonth marchYear marchMonth
  simp only
  split <;> split <;> first | omega | (congr 1 <;> omega)

/-- The months after March are told from the days by where they start. -/
theorem months_eq_iff (days months : Nat) :
    (5 * days + 2) / 153 = months ↔ monthStart months ≤ days ∧ days < monthStart (months + 1) := by
  unfold monthStart
  omega

theorem daysInMonth_ofMarchMonth {months : Nat} (h : months ≤ 11) (year : Int) (day : Nat) :
    daysInMonth (ofMarchMonth year months day).year (ofMarchMonth year months day).month =
      (if months = 11 then marchLength year else monthStart (months + 1)) - monthStart months := by
  have : months = 0 ∨ months = 1 ∨ months = 2 ∨ months = 3 ∨ months = 4 ∨ months = 5 ∨ months = 6 ∨
      months = 7 ∨ months = 8 ∨ months = 9 ∨ months = 10 ∨ months = 11 := by omega
  rcases this with rfl | rfl | rfl | rfl | rfl | rfl | rfl | rfl | rfl | rfl | rfl | rfl <;>
    simp [ofMarchMonth, daysInMonth, monthStart, marchLength]
  split <;> rfl

theorem marchLength_le (year : Int) : marchLength year ≤ 366 := by
  unfold marchLength
  split <;> omega

theorem onCalendar_ofMarch {year : Int} {days : Nat} (h : days < marchLength year) :
    (ofMarch year days).OnCalendar := by
  have hle := marchLength_le year
  have hpos := marchLength_pos year
  obtain ⟨hlow, hhigh⟩ := (months_eq_iff days _).mp rfl
  have hm : (5 * days + 2) / 153 ≤ 11 := by omega
  simp only [ofMarch, OnCalendar, daysInMonth_ofMarchMonth hm, day_ofMarchMonth]
  generalize (5 * days + 2) / 153 = months at *
  refine ⟨?_, by omega, ?_⟩
  · unfold ofMarchMonth
    split <;> simp only <;> omega
  · split
    · omega
    · omega

theorem dayNumber_ofMarch {year : Int} {days : Nat} (h : days < marchLength year) :
    (ofMarch year days).dayNumber = yearStart year + days - epoch := by
  have hle := marchLength_le year
  obtain ⟨hlow, -⟩ := (months_eq_iff days _).mp rfl
  have hm : (5 * days + 2) / 153 ≤ 11 := by omega
  simp only [ofMarch, dayNumber, marchYear_ofMarchMonth hm, marchMonth_ofMarchMonth hm, day_ofMarchMonth]
  omega

theorem dayNumber_ofDayNumber (n : Int) : (ofDayNumber n).dayNumber = n := by
  obtain ⟨hsum, hlt⟩ := yearStart_splitYear (n + epoch)
  simp only [ofDayNumber, dayNumber_ofMarch hlt]
  omega

theorem onCalendar_ofDayNumber (n : Int) : (ofDayNumber n).OnCalendar :=
  onCalendar_ofMarch (yearStart_splitYear (n + epoch)).2

/-- A date on the calendar is the one that its day number names. -/
theorem ofDayNumber_dayNumber {d : Date} (h : d.OnCalendar) : ofDayNumber d.dayNumber = d := by
  obtain ⟨hmonth, hday, hlast⟩ := h
  have hm : d.marchMonth ≤ 11 := by
    unfold marchMonth
    omega
  have hd := ofMarchMonth_marchMonth hmonth
  have hlength := daysInMonth_ofMarchMonth hm d.marchYear d.day
  rw [hd] at hlength
  have hnext : monthStart (d.marchMonth + 1) ≤ 337 ∨ d.marchMonth = 11 := by
    unfold monthStart
    omega
  have hpos := marchLength_pos d.marchYear
  have hlt : monthStart d.marchMonth + d.day - 1 < marchLength d.marchYear := by
    split at hlength <;> omega
  have hle := marchLength_le d.marchYear
  have hmonths : (5 * (monthStart d.marchMonth + d.day - 1) + 2) / 153 = d.marchMonth := by
    rw [months_eq_iff]
    split at hlength
    · rename_i h11
      have : monthStart (11 + 1) = 367 := by decide
      rw [h11] at hlength ⊢
      omega
    · omega
  have hsum : d.dayNumber + epoch = yearStart d.marchYear + (monthStart d.marchMonth + d.day - 1 : Nat) := by
    unfold dayNumber
    omega
  rw [ofDayNumber, hsum, splitYear_yearStart hlt]
  simp only [ofMarch, hmonths]
  rw [show monthStart d.marchMonth + d.day - 1 - monthStart d.marchMonth + 1 = d.day by omega]
  exact hd

theorem dayNumber_first (year : Int) : (Date.mk year 1 1).dayNumber = yearStart (year - 1) + 306 - epoch := by
  simp only [dayNumber, marchYear, marchMonth, monthStart]
  simp
  omega

theorem dayNumber_last (year : Int) : (Date.mk year 12 31).dayNumber = yearStart year + 305 - epoch := by
  simp only [dayNumber, marchYear, marchMonth, monthStart]
  simp
  omega

/-- A year holds the days from its first of January to its last of December. -/
theorem dayNumber_bounds {d : Date} (h : d.OnCalendar) :
    (Date.mk d.year 1 1).dayNumber ≤ d.dayNumber ∧ d.dayNumber ≤ (Date.mk d.year 12 31).dayNumber := by
  obtain ⟨year, month, day⟩ := d
  obtain ⟨⟨h1, h12⟩, hday, hlast⟩ := h
  have hsucc := yearStart_succ (year - 1)
  have hpos := marchLength_pos (year - 1)
  have hle := marchLength_le (year - 1)
  rw [Int.sub_add_cancel] at hsucc
  simp only at h1 h12 hday hlast
  have hlast31 : day ≤ 31 := by
    refine Nat.le_trans hlast ?_
    unfold daysInMonth
    split <;> split <;> omega
  rw [dayNumber_first, dayNumber_last]
  have : month = 1 ∨ month = 2 ∨ month = 3 ∨ month = 4 ∨ month = 5 ∨ month = 6 ∨ month = 7 ∨ month = 8 ∨
      month = 9 ∨ month = 10 ∨ month = 11 ∨ month = 12 := by omega
  rcases this with rfl | rfl | rfl | rfl | rfl | rfl | rfl | rfl | rfl | rfl | rfl | rfl <;>
    simp [dayNumber, marchYear, marchMonth, monthStart] <;> omega

theorem dayNumber_lt_of_year_lt {d e : Date} (hd : d.OnCalendar) (he : e.OnCalendar) (h : d.year < e.year) :
    d.dayNumber < e.dayNumber := by
  have hlast := (dayNumber_bounds hd).2
  have hfirst := (dayNumber_bounds he).1
  rw [dayNumber_last] at hlast
  rw [dayNumber_first] at hfirst
  have : yearStart d.year ≤ yearStart (e.year - 1) := by
    unfold yearStart
    omega
  omega

end Date

namespace Moment

theorem firstSecond_eq : firstSecond = -8334601228800 := by decide

theorem lastSecond_eq : lastSecond = 8210266876799 := by decide

end Moment

namespace Civil

variable {c : Civil}

theorem secondOfDay_lt (h : c.Valid) : c.secondOfDay < 86400 := by
  obtain ⟨-, hhour, hminute, -⟩ := h
  unfold secondOfDay
  omega

/-- The moment of a date and time lies between the ends of the date's year. -/
theorem second_moment_bounds (h : c.Valid) :
    86400 * (Date.mk c.date.year 1 1).dayNumber ≤ c.moment.second ∧
      c.moment.second ≤ 86400 * (Date.mk c.date.year 12 31).dayNumber + 86399 := by
  have hsecond := secondOfDay_lt h
  obtain ⟨hlow, hhigh⟩ := Date.dayNumber_bounds h.1.2
  unfold moment
  constructor
  · simp only
    omega
  · simp only
    omega

/-- A date and time in the kept years is a moment in the kept years. -/
theorem inCalendar_moment (h : c.Valid) : c.moment.InCalendar := by
  obtain ⟨hlow, hhigh⟩ := second_moment_bounds h
  obtain ⟨⟨⟨hfirst, hlast⟩, -⟩, -⟩ := h
  rw [Date.dayNumber_first] at hlow
  rw [Date.dayNumber_last] at hhigh
  unfold firstYear at hfirst
  unfold lastYear at hlast
  unfold Date.yearStart Date.epoch at hlow hhigh
  unfold Moment.InCalendar
  rw [Moment.firstSecond_eq, Moment.lastSecond_eq]
  omega

end Civil

namespace Moment

theorem onCalendar_date (m : Moment) : m.date.OnCalendar := Date.onCalendar_ofDayNumber _

/-- A moment in the kept years has a date in the kept years. -/
theorem valid_date {m : Moment} (h : m.InCalendar) : m.date.Valid := by
  have hfirst : (Date.mk firstYear 1 1).OnCalendar := by decide
  have hlast : (Date.mk lastYear 12 31).OnCalendar := by decide
  have hday : m.date.dayNumber = m.second / 86400 := Date.dayNumber_ofDayNumber _
  obtain ⟨hlow, hhigh⟩ := h
  unfold firstSecond at hlow
  unfold lastSecond at hhigh
  refine ⟨⟨?_, ?_⟩, m.onCalendar_date⟩
  · refine Int.not_lt.mp fun hlt => ?_
    have := Date.dayNumber_lt_of_year_lt m.onCalendar_date hfirst hlt
    omega
  · refine Int.not_lt.mp fun hlt => ?_
    have := Date.dayNumber_lt_of_year_lt hlast m.onCalendar_date hlt
    omega

/-- A moment in the kept years has a date and time that exist. -/
theorem valid_civil {m : Moment} (h : m.InCalendar) : m.civil.Valid := by
  have hsecond : m.secondOfDay < 86400 := by
    unfold secondOfDay
    omega
  refine ⟨valid_date h, ?_, ?_, ?_⟩
  · change m.secondOfDay / 3600 ≤ 23
    omega
  · change m.secondOfDay / 60 % 60 ≤ 59
    omega
  · change (if m.nano < 1000000000 then m.secondOfDay % 60 else m.secondOfDay % 60 + 1) ≤ 60
    split <;> omega

theorem civil_moment {c : Civil} (h : c.Valid) (hnano : c.nano < 1000000000) : c.moment.civil = c := by
  obtain ⟨date, hour, minute, second, nano⟩ := c
  obtain ⟨⟨_, hdate⟩, hhour, hminute, hsecond⟩ := h
  simp only at hhour hminute hsecond hnano hdate
  have hday : (86400 * date.dayNumber + ((3600 * hour + 60 * minute + min 59 second : Nat) : Int)) / 86400 =
      date.dayNumber := by omega
  have hrest : ((86400 * date.dayNumber + ((3600 * hour + 60 * minute + min 59 second : Nat) : Int)) % 86400).toNat =
      3600 * hour + 60 * minute + min 59 second := by omega
  simp only [Civil.moment, Civil.secondOfDay, civil, Moment.date, Moment.secondOfDay, hday, hrest,
    Date.ofDayNumber_dayNumber hdate, Civil.mk.injEq, true_and]
  by_cases h60 : second = 60
  · simp only [h60, if_true]
    split <;> omega
  · simp only [h60, if_false]
    split <;> omega

end Moment

end AlbumBrowser.Calendar
