import OrgAccess.Instant.Calendar

/-!
# Dates and day numbers

Every day number is that of its date (`dayNumber_ofDayNumber`), and the date exists
(`isValid_ofDayNumber`). The calendar repeats itself after 400 years. A day is found in a cycle by
its century, by the four years of the century and by the year of those (`CycleDay`); since years
begin in March, only the last year, four years or century of a longer stretch may have a day more
or less than the others.
-/

namespace OrgAccess.Calendar

/-! ## Cycles of 400 years -/

/-- A day of a cycle of 400 years that begin in March: the century, the four years in it, the year
in those, and the day in the year, all counted from 0. The last of four years ends with a leap day,
unless it is the last of a century other than the fourth. -/
structure CycleDay where
  century : Nat
  fours : Nat
  year : Nat
  day : Nat
  century_le : century ≤ 3
  fours_le : fours ≤ 24
  year_le : year ≤ 3
  day_le : day ≤ 365
  leap : day = 365 → year = 3 ∧ (fours = 24 → century = 3)

namespace CycleDay

/-- The number of days in the cycle before a day. -/
def index (d : CycleDay) : Nat :=
  36524 * d.century + 1461 * d.fours + 365 * d.year + d.day

/-- The number of years in the cycle before the year of a day. -/
def yearIndex (d : CycleDay) : Nat :=
  100 * d.century + 4 * d.fours + d.year

/-- Every day of a cycle is one of its 146097 days. -/
theorem index_lt (d : CycleDay) : d.index < 146097 := by
  obtain ⟨century, fours, year, day, hcentury, hfours, hyear, hday, hleap⟩ := d
  simp only [index]
  omega

/-- Every day of a cycle has its place there. -/
theorem exists_index_eq {n : Nat} (h : n < 146097) : ∃ d : CycleDay, d.index = n := by
  -- the last century and the last year of four take what is left, so no quotient is too great
  obtain ⟨century, hcentury⟩ : ∃ century, century = min 3 (n / 36524) := ⟨_, rfl⟩
  obtain ⟨ofCentury, hofCentury⟩ : ∃ m, n = 36524 * century + m :=
    ⟨n - 36524 * century, by omega⟩
  obtain ⟨fours, hfours⟩ : ∃ fours, fours = ofCentury / 1461 := ⟨_, rfl⟩
  obtain ⟨ofFours, hofFours⟩ : ∃ m, ofCentury = 1461 * fours + m :=
    ⟨ofCentury - 1461 * fours, by omega⟩
  obtain ⟨year, hyear⟩ : ∃ year, year = min 3 (ofFours / 365) := ⟨_, rfl⟩
  obtain ⟨day, hday⟩ : ∃ m, ofFours = 365 * year + m := ⟨ofFours - 365 * year, by omega⟩
  have hfull : century < 3 → ofCentury < 36524 := by omega
  have hrest : ofCentury ≤ 36524 := by omega
  refine ⟨⟨century, fours, year, day, ?_, ?_, ?_, ?_, ?_⟩, ?_⟩
  · omega
  · omega
  · omega
  · omega
  · intro hlast
    constructor
    · omega
    · intro hend
      have hnot : ¬ century < 3 := fun hless => by
        have := hfull hless
        omega
      omega
  · simp only [index]
    omega

/-- The year of a day is the number of days without the leap days, in years. -/
theorem yearIndex_eq (d : CycleDay) :
    (d.index - d.index / 1460 + d.index / 36524 - d.index / 146096) / 365 = d.yearIndex := by
  obtain ⟨century, fours, year, day, hcentury, hfours, hyear, hday, hleap⟩ := d
  simp only [index, yearIndex]
  -- the quotients count the last day of four years, of a century or of the cycle too early
  obtain ⟨n, hn⟩ : ∃ n, n = 36524 * century + 1461 * fours + 365 * year + day := ⟨_, rfl⟩
  obtain ⟨early, hearly⟩ : ∃ early, early = (24 * century + fours + 365 * year + day) / 1460 :=
    ⟨_, rfl⟩
  have hfourth : n / 1460 = 25 * century + fours + early := by omega
  have hlast : n / 146096 = 0 ∧ n / 36524 = century ∨ n / 146096 = 1 ∧ n = 146096 := by omega
  rw [← hn, hfourth]
  rcases hlast with ⟨hcycle, hhundredth⟩ | ⟨hcycle, hend⟩
  · rw [hcycle, hhundredth]
    omega
  · omega

end CycleDay

/-! ## Years from March -/

/-- Every fourth year is a leap year, but of the years that end a century only every fourth. -/
theorem isLeapYear_iff (year : Int) :
    isLeapYear year = true ↔ year % 4 = 0 ∧ (year % 100 ≠ 0 ∨ year % 400 = 0) := by
  simp [isLeapYear]

namespace Date

/-- The date a number of days after the first of March of a year. -/
def ofMarch (year : Int) (day : Nat) : Date :=
  let month := (5 * day + 2) / 153
  { year := year + if month < 10 then 0 else 1
    month := if month < 10 then month + 3 else month - 9
    day := day - (153 * month + 2) / 5 + 1 }

/-- A day number leads to the cycle, and from there to the year. -/
theorem ofDayNumber_index (cycle : Int) (d : CycleDay) :
    ofDayNumber (146097 * cycle + d.index - 719468) =
      ofMarch (cycle * 400 + d.yearIndex) d.day := by
  have hshifted : 146097 * cycle + d.index - 719468 + 719468 = 146097 * cycle + d.index := by
    omega
  have hlt := d.index_lt
  have hcycle : (146097 * cycle + d.index) / 146097 = cycle := by omega
  have hindex : ((146097 * cycle + d.index) % 146097).toNat = d.index := by omega
  have hday : d.index - (365 * d.yearIndex + d.yearIndex / 4 - d.yearIndex / 100) = d.day := by
    obtain ⟨century, fours, year, day, hcentury, hfours, hyear, hday, hleap⟩ := d
    simp only [CycleDay.index, CycleDay.yearIndex]
    omega
  simp only [ofDayNumber, ofMarch, hshifted, hcycle, hindex, CycleDay.yearIndex_eq, hday]

/-- Every day number is reached so. -/
theorem exists_cycleDay (number : Int) :
    ∃ (cycle : Int) (d : CycleDay), number = 146097 * cycle + d.index - 719468 := by
  obtain ⟨d, hd⟩ := CycleDay.exists_index_eq (n := ((number + 719468) % 146097).toNat) (by omega)
  exact ⟨(number + 719468) / 146097, d, by omega⟩

/-- The day number of a day of a year that begins in March. -/
theorem dayNumber_ofMarch (year : Int) {day : Nat} (h : day ≤ 365) :
    (ofMarch year day).dayNumber =
      365 * year + year / 4 - year / 100 + year / 400 + day - 719468 := by
  obtain ⟨month, hmonth⟩ : ∃ month, month = (5 * day + 2) / 153 := ⟨_, rfl⟩
  have hfirst : (153 * month + 2) / 5 ≤ day := by omega
  simp only [ofMarch, dayNumber, ← hmonth]
  by_cases hyear : month < 10
  · have hback : (month + 3 + 9) % 12 = month := by omega
    simp only [if_pos hyear, hback, Int.add_zero]
    rw [if_neg (by omega)]
    omega
  · have hback : (month - 9 + 9) % 12 = month := by omega
    simp only [if_neg hyear, hback, Int.add_sub_cancel]
    rw [if_pos (by omega)]
    omega

/-- A date exists when its month is one of the year and its day one of the month. -/
theorem isValid_iff (date : Date) :
    date.isValid = true ↔
      1 ≤ date.month ∧ date.month ≤ 12 ∧ 1 ≤ date.day ∧
        date.day ≤ daysInMonth date.year date.month := by
  simp [isValid, and_assoc]

/-- A day of a year that begins in March exists, the last one if the year ends with a leap day. -/
theorem isValid_ofMarch {year : Int} {day : Nat} (h : day ≤ 365)
    (hleap : day = 365 → isLeapYear (year + 1) = true) : (ofMarch year day).isValid = true := by
  obtain ⟨month, hmonth⟩ : ∃ month, month = (5 * day + 2) / 153 := ⟨_, rfl⟩
  rw [isValid_iff]
  simp only [ofMarch, ← hmonth]
  by_cases hyear : month < 10
  · simp only [if_pos hyear, daysInMonth]
    refine ⟨by omega, by omega, by omega, ?_⟩
    rw [if_neg (by omega)]
    split <;> omega
  · simp only [if_neg hyear, daysInMonth]
    refine ⟨by omega, by omega, by omega, ?_⟩
    by_cases hfebruary : month = 11
    · rw [if_pos (by omega)]
      split
      · omega
      · next hcommon =>
        have hday : day ≠ 365 := fun hlast => hcommon (hleap hlast)
        omega
    · rw [if_neg (by omega), if_neg (by omega)]
      omega

/-- A date is the date of its day number. -/
theorem dayNumber_ofDayNumber (number : Int) : (ofDayNumber number).dayNumber = number := by
  obtain ⟨cycle, d, rfl⟩ := exists_cycleDay number
  rw [ofDayNumber_index, dayNumber_ofMarch _ d.day_le]
  obtain ⟨century, fours, year, day, hcentury, hfours, hyear, hday, hleap⟩ := d
  simp only [CycleDay.index, CycleDay.yearIndex]
  omega

/-- The date of a day number exists. -/
theorem isValid_ofDayNumber (number : Int) : (ofDayNumber number).isValid = true := by
  obtain ⟨cycle, d, rfl⟩ := exists_cycleDay number
  rw [ofDayNumber_index]
  refine isValid_ofMarch d.day_le fun hlast => ?_
  obtain ⟨century, fours, year, day, hcentury, hfours, hyear, hday, hleap⟩ := d
  obtain ⟨rfl, hend⟩ := hleap hlast
  rw [isLeapYear_iff]
  simp only [CycleDay.yearIndex]
  omega

end Date

end OrgAccess.Calendar
