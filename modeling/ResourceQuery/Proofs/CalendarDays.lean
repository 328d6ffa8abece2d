import Mathlib
import ResourceQuery.Time.Calendar

namespace ResourceQuery.Time

def yearLength (y : Int) : Int :=
  if isLeapYear y then 366 else 365

/-- There is such a day in such a month. -/
structure Date.Exists (d : Date) : Prop where
  month : 1 ≤ d.month ∧ d.month ≤ 12
  day : 1 ≤ d.day ∧ d.day ≤ daysInMonth d.year d.month

/-- Days from 1970-01-01, counted year by year, forwards or backwards, then month by month. -/
def Date.dayNumber (d : Date) : Int :=
  ∑ k ∈ Finset.range (d.year - 1970).toNat, yearLength (1970 + k) -
    ∑ k ∈ Finset.range (1970 - d.year).toNat, yearLength (1969 - k) +
    ∑ m ∈ Finset.Ico 1 d.month, (daysInMonth d.year m : Int) + (d.day - 1)

example : Date.dayNumber ⟨1972, 3, 1⟩ = 790 := by decide

example : Date.dayNumber ⟨1968, 12, 31⟩ = -366 := by decide

theorem isLeapYear_iff (y : Int) :
    isLeapYear y = true ↔ y % 4 = 0 ∧ (y % 100 ≠ 0 ∨ y % 400 = 0) := by
  simp [isLeapYear]

/-- Days of the years up to and with `y`, from a year in which all cycles begin. -/
def daysThrough (y : Int) : Int :=
  365 * y + y / 4 - y / 100 + y / 400

theorem daysThrough_step (y : Int) : daysThrough y = daysThrough (y - 1) + yearLength y := by
  by_cases h : isLeapYear y = true
  · have hcycles := (isLeapYear_iff y).mp h
    rw [yearLength, if_pos h, daysThrough, daysThrough]
    omega
  · have hcycles := mt (isLeapYear_iff y).mpr h
    rw [yearLength, if_neg h, daysThrough, daysThrough]
    omega

theorem sum_yearLength_after (n : Nat) :
    ∑ k ∈ Finset.range n, yearLength (1970 + k) = daysThrough (1969 + n) - 719162 := by
  induction n with
  | zero => decide
  | succ n ih =>
    have hstep := daysThrough_step (1970 + n)
    have hlast : (1970 + n : Int) - 1 = 1969 + n := by ring
    have hnext : (1969 + (n + 1 : Nat) : Int) = 1970 + n := by push_cast; ring
    rw [Finset.sum_range_succ, ih, hnext, hstep, hlast]
    ring

theorem sum_yearLength_before (n : Nat) :
    ∑ k ∈ Finset.range n, yearLength (1969 - k) = 719162 - daysThrough (1969 - n) := by
  induction n with
  | zero => decide
  | succ n ih =>
    have hstep := daysThrough_step (1969 - n)
    have hnext : (1969 - (n + 1 : Nat) : Int) = 1969 - n - 1 := by push_cast; ring
    rw [Finset.sum_range_succ, ih, hnext, hstep]
    ring

/-- The days of the years between 1970 and `y`. -/
theorem sum_yearLength (y : Int) :
    ∑ k ∈ Finset.range (y - 1970).toNat, yearLength (1970 + k) -
      ∑ k ∈ Finset.range (1970 - y).toNat, yearLength (1969 - k) =
        daysThrough (y - 1) - 719162 := by
  have hepoch : daysThrough 1969 = 719162 := by decide
  rw [sum_yearLength_after, sum_yearLength_before]
  rcases Int.le_total 1970 y with h | h
  · have hafter : (1969 + (y - 1970).toNat : Int) = y - 1 := by omega
    have hbefore : (1969 - (1970 - y).toNat : Int) = 1969 := by omega
    rw [hafter, hbefore, hepoch]
    ring
  · have hafter : (1969 + (y - 1970).toNat : Int) = 1969 := by omega
    have hbefore : (1969 - (1970 - y).toNat : Int) = y - 1 := by omega
    rw [hafter, hbefore, hepoch]
    ring

/-- Days of the months before, by the one rule that they follow from March on. -/
theorem sum_daysInMonth (y : Int) {m : Nat} (h1 : 1 ≤ m) (h12 : m ≤ 12) :
    ∑ k ∈ Finset.Ico 1 m, (daysInMonth y k : Int) =
      if m ≤ 2 then (153 * ((m : Int) + 9) + 2) / 5 - 306
      else (153 * ((m : Int) - 3) + 2) / 5 + (yearLength y - 306) := by
  induction m, h1 using Nat.le_induction with
  | base => simp
  | succ m h1 ih =>
    have h11 : m ≤ 11 := by omega
    rw [Finset.sum_Ico_succ_top h1, ih (by omega)]
    by_cases hleap : isLeapYear y = true <;> interval_cases m <;>
      simp [daysInMonth, yearLength, hleap]

/-- The number of a day is counted from the beginning of the calendar. -/
theorem toDays_eq_dayNumber {d : Date} (h : 1 ≤ d.month ∧ d.month ≤ 12) :
    d.toDays = d.dayNumber := by
  obtain ⟨y, m, day⟩ := d
  obtain ⟨h1, h12⟩ := h
  have hyears := sum_yearLength y
  have hmonths := sum_daysInMonth y h1 h12
  have hstep := daysThrough_step y
  simp only at h1 h12 hmonths
  rw [Date.dayNumber, hyears, hmonths, Date.toDays]
  by_cases hm : m ≤ 2
  · simp only [hm, if_true, daysThrough]
    omega
  · simp only [hm, if_false]
    rw [daysThrough] at hstep
    omega

/-- The year within a period of 400 years, and the day within that year. The year begins in March,
so that the leap day that makes it longer is one of the next year. -/
theorem yearOfPeriod_spec (d y : Int) (h0 : 0 ≤ d) (h1 : d < 146097)
    (hy : y = (d - d / 1460 + d / 36524 - d / 146096) / 365) :
    0 ≤ y ∧ y < 400 ∧ 0 ≤ d - (365 * y + y / 4 - y / 100) ∧
      d - (365 * y + y / 4 - y / 100) ≤ 365 ∧
      (d - (365 * y + y / 4 - y / 100) = 365 → isLeapYear (y + 1) = true) := by
  by_cases hlast : d = 146096
  · subst hlast hy
    decide
  -- centuries, and in each of them spans of four years
  obtain ⟨g, e, hd, he0, he1⟩ : ∃ g e, d = 36524 * g + e ∧ 0 ≤ e ∧ e < 36524 :=
    ⟨d / 36524, d % 36524, by omega, by omega, by omega⟩
  obtain ⟨k, t, hk, ht0, ht1⟩ : ∃ k t, 24 * g + e = 1460 * k + t ∧ 0 ≤ t ∧ t < 1460 :=
    ⟨(24 * g + e) / 1460, (24 * g + e) % 1460, by omega, by omega, by omega⟩
  have hg : 0 ≤ g ∧ g ≤ 3 := by omega
  have hspan : d / 1460 = 25 * g + k := by omega
  have hcentury : d / 36524 = g := by omega
  have hperiod : d / 146096 = 0 := by omega
  obtain ⟨z, r, hz, hr0, hr1⟩ : ∃ z r, e - k = 365 * z + r ∧ 0 ≤ r ∧ r < 365 :=
    ⟨(e - k) / 365, (e - k) % 365, by omega, by omega, by omega⟩
  have hyear : y = 100 * g + z := by omega
  have hz0 : 0 ≤ z ∧ z < 100 := by omega
  have hzk : 4 * k - 1 ≤ z ∧ z ≤ 4 * k + 3 := by omega
  have h4 : y / 4 = 25 * g + z / 4 := by omega
  have h100 : y / 100 = g := by omega
  rw [h4, h100, isLeapYear_iff]
  refine ⟨by omega, by omega, by omega, by omega, ?_⟩
  -- a longer year is the last of four, and no century ends with it but the last of the period
  intro hlong
  have hlast4 : z = 4 * k - 1 := by omega
  have hk : 1 ≤ k ∧ k ≤ 24 := by omega
  have hnext : y + 1 = 100 * g + 4 * k := by omega
  rw [hnext]
  omega

/-- The month counted from March, and the day within that month. -/
theorem month_spec (d m : Int) (h0 : 0 ≤ d) (h1 : d ≤ 365) (hm : m = (5 * d + 2) / 153) :
    0 ≤ m ∧ m < 12 ∧ 1 ≤ d - (153 * m + 2) / 5 + 1 := by
  omega

/-- The day of a date whose month counts from March, in year `y` of a period. -/
theorem toDays_fromMarch (era y m day : Int) (hy0 : 0 ≤ y) (hy1 : y < 400) (hm0 : 0 ≤ m)
    (hm1 : m < 12) (hday : 1 ≤ day) :
    let month := if m < 10 then m + 3 else m - 9
    let year := y + era * 400
    Date.toDays ⟨if month ≤ 2 then year + 1 else year, month.toNat, day.toNat⟩ =
      era * 146097 + (365 * y + y / 4 - y / 100 + (153 * m + 2) / 5 + day - 1) - 719468 := by
  have hyear : (y + era * 400) % 400 = y := by omega
  have hera : (y + era * 400) / 400 = era := by omega
  by_cases hm : m < 10
  · have hlate : ¬ m + 3 ≤ 2 ∧ ¬ (m + 3).toNat ≤ 2 := by omega
    simp only [Date.toDays, hm, hlate, if_true, if_false, hyear, hera]
    omega
  · have hearly : m - 9 ≤ 2 ∧ (m - 9).toNat ≤ 2 := by omega
    simp only [Date.toDays, hm, hearly, if_true, if_false, Int.add_sub_cancel, hyear, hera]
    omega

/-- The calendar gives back the day that a date is made of. -/
theorem Date.toDays_ofDays (n : Int) : (Date.ofDays n).toDays = n := by
  have hperiod := Int.emod_nonneg (n + 719468) (b := 146097) (by decide)
  have hperiod' := Int.emod_lt_of_pos (n + 719468) (b := 146097) (by decide)
  have hsplit := Int.mul_ediv_add_emod (n + 719468) 146097
  obtain ⟨hy0, hy1, hday0, hday1, -⟩ := yearOfPeriod_spec _ _ hperiod hperiod' rfl
  obtain ⟨hm0, hm1, hday⟩ := month_spec _ _ hday0 hday1 rfl
  refine (toDays_fromMarch _ _ _ _ hy0 hy1 hm0 hm1 hday).trans ?_
  omega

theorem isLeapYear_period (y era : Int) : isLeapYear (y + era * 400) = isLeapYear y := by
  rw [Bool.eq_iff_iff, isLeapYear_iff, isLeapYear_iff]
  omega

theorem daysInMonth_fromMarch (y : Int) {m : Int} (h0 : 0 ≤ m) (h11 : m < 11) :
    (daysInMonth y (if m < 10 then m + 3 else m - 9).toNat : Int) =
      (153 * (m + 1) + 2) / 5 - (153 * m + 2) / 5 := by
  interval_cases m <;> rfl

/-- Day `d` of year `y` of a period exists. -/
theorem exists_fromMarch (era y d m : Int) (h0 : 0 ≤ d) (h1 : d ≤ 365)
    (hleap : d = 365 → isLeapYear (y + 1) = true) (hm : m = (5 * d + 2) / 153) :
    let month := if m < 10 then m + 3 else m - 9
    let year := y + era * 400
    Date.Exists ⟨if month ≤ 2 then year + 1 else year, month.toNat,
      (d - (153 * m + 2) / 5 + 1).toNat⟩ := by
  obtain ⟨hm0, hm1, hday⟩ := month_spec d m h0 h1 hm
  intro month year
  by_cases hfeb : m < 11
  · have hlength := daysInMonth_fromMarch (if month ≤ 2 then year + 1 else year) hm0 hfeb
    change (daysInMonth _ month.toNat : Int) = _ at hlength
    have hmonth : 1 ≤ month ∧ month ≤ 12 := by
      by_cases h : m < 10 <;> simp only [month, h, if_true, if_false] <;> omega
    refine ⟨⟨?_, ?_⟩, ?_, ?_⟩ <;> dsimp only <;> omega
  · -- the last month of the year is February
    have hmonth : month = 2 := by
      simp only [month]
      omega
    have hnext : isLeapYear (y + era * 400 + 1) = isLeapYear (y + 1) := by
      rw [Int.add_right_comm, isLeapYear_period]
    have hlength : d ≤ 336 + daysInMonth (y + era * 400 + 1) 2 := by
      rw [daysInMonth, hnext]
      by_cases h365 : d = 365
      · simp [hleap h365, h365]
      · split <;> omega
    have hlate : m = 11 := by omega
    simp only [hmonth, year, hlate]
    refine ⟨by simp, ?_, ?_⟩
    · dsimp only
      omega
    · change (d - (153 * 11 + 2) / 5 + 1).toNat ≤ daysInMonth (y + era * 400 + 1) 2
      omega

/-- The date that is made of a day exists. -/
theorem Date.ofDays_exists (n : Int) : (Date.ofDays n).Exists := by
  have hperiod := Int.emod_nonneg (n + 719468) (b := 146097) (by decide)
  have hperiod' := Int.emod_lt_of_pos (n + 719468) (b := 146097) (by decide)
  obtain ⟨-, -, hday0, hday1, hleap⟩ := yearOfPeriod_spec _ _ hperiod hperiod' rfl
  exact exists_fromMarch _ _ _ _ hday0 hday1 hleap rfl

/-- The days of a month come before those of every later month. -/
theorem sum_daysInMonth_lt (y : Int) {m n : Nat} (h1 : 1 ≤ m) (hlt : m < n) :
    ∑ k ∈ Finset.Ico 1 m, (daysInMonth y k : Int) + daysInMonth y m ≤
      ∑ k ∈ Finset.Ico 1 n, (daysInMonth y k : Int) := by
  rw [← Finset.sum_Ico_succ_top h1]
  exact Finset.sum_le_sum_of_subset_of_nonneg (Finset.Ico_subset_Ico (Nat.le_refl 1) hlt)
    fun k _ _ => Int.natCast_nonneg _

theorem sum_daysInMonth_year (y : Int) :
    ∑ k ∈ Finset.Ico 1 13, (daysInMonth y k : Int) = yearLength y := by
  have hlast := sum_daysInMonth y (by decide : 1 ≤ 12) (Nat.le_refl 12)
  have hdecember : (daysInMonth y 12 : Int) = 31 := rfl
  rw [Finset.sum_Ico_succ_top (by decide : 1 ≤ 12), hlast, hdecember]
  simp only [(by decide : ¬ 12 ≤ 2), if_false]
  omega

/-- The days of a year come behind those of the years before it and before those of the years
behind it. -/
theorem Date.Exists.dayNumber_range {d : Date} (h : d.Exists) :
    daysThrough (d.year - 1) ≤ d.dayNumber + 719162 ∧
      d.dayNumber + 719162 < daysThrough d.year := by
  obtain ⟨⟨hm1, hm12⟩, hd1, hdlen⟩ := h
  have hyears := sum_yearLength d.year
  have hstep := daysThrough_step d.year
  have hbefore : 0 ≤ ∑ k ∈ Finset.Ico 1 d.month, (daysInMonth d.year k : Int) :=
    Finset.sum_nonneg fun k _ => Int.natCast_nonneg _
  have hmonth := sum_daysInMonth_lt d.year hm1 (Nat.lt_succ_of_le hm12)
  rw [sum_daysInMonth_year] at hmonth
  rw [Date.dayNumber, hyears]
  omega

theorem daysThrough_mono {y z : Int} (h : y ≤ z) : daysThrough y ≤ daysThrough z := by
  rw [daysThrough, daysThrough]
  omega

theorem Date.Exists.year_unique {d e : Date} (hd : d.Exists) (he : e.Exists)
    (h : d.dayNumber = e.dayNumber) : d.year = e.year := by
  have hdr := hd.dayNumber_range
  have her := he.dayNumber_range
  rcases Int.lt_trichotomy d.year e.year with hlt | heq | hlt
  · have := daysThrough_mono (by omega : d.year ≤ e.year - 1)
    omega
  · exact heq
  · have := daysThrough_mono (by omega : e.year ≤ d.year - 1)
    omega

/-- No two dates are the same day. -/
theorem Date.Exists.unique {d e : Date} (hd : d.Exists) (he : e.Exists)
    (h : d.dayNumber = e.dayNumber) : d = e := by
  have hyear := hd.year_unique he h
  obtain ⟨y, m, a⟩ := d
  obtain ⟨z, n, b⟩ := e
  obtain rfl : y = z := hyear
  obtain ⟨⟨hm1, -⟩, ha1, ha⟩ := hd
  obtain ⟨⟨hn1, -⟩, hb1, hb⟩ := he
  simp only [Date.dayNumber] at hm1 ha1 ha hn1 hb1 hb h
  have hmonth : m = n := by
    rcases Nat.lt_trichotomy m n with hlt | heq | hlt
    · have := sum_daysInMonth_lt y hm1 hlt
      omega
    · exact heq
    · have := sum_daysInMonth_lt y hn1 hlt
      omega
  subst hmonth
  have hday : a = b := by omega
  rw [hday]

/-- The date that is made of a day is the one date with the number of the day. -/
theorem Date.numbered_iff {d : Date} {n : Int} :
    d.Exists ∧ d.dayNumber = n ↔ d = Date.ofDays n := by
  have hmade : (Date.ofDays n).dayNumber = n := by
    rw [← toDays_eq_dayNumber (Date.ofDays_exists n).month, Date.toDays_ofDays]
  constructor
  · intro h
    obtain ⟨hd, hn⟩ := h
    exact hd.unique (Date.ofDays_exists n) (hn.trans hmade.symm)
  · rintro rfl
    exact ⟨Date.ofDays_exists n, hmade⟩

theorem Date.valid_iff {d : Date} :
    d.valid = true ↔ (leastYear ≤ d.year ∧ d.year ≤ greatestYear) ∧ d.Exists := by
  simp only [Date.valid, Bool.and_eq_true, decide_eq_true_eq]
  constructor
  · rintro ⟨⟨⟨⟨⟨h1, h2⟩, h3⟩, h4⟩, h5⟩, h6⟩
    exact ⟨⟨h1, h2⟩, ⟨h3, h4⟩, ⟨h5, h6⟩⟩
  · rintro ⟨⟨h1, h2⟩, ⟨h3, h4⟩, ⟨h5, h6⟩⟩
    exact ⟨⟨⟨⟨⟨h1, h2⟩, h3⟩, h4⟩, h5⟩, h6⟩

theorem daysInMonth_le (y : Int) (m : Nat) : daysInMonth y m ≤ 31 := by
  unfold daysInMonth
  split
  · split <;> decide
  all_goals decide

/-- Days around the four-digit years. -/
theorem valid_ofDays {n : Int} (h0 : -1000000 ≤ n) (h1 : n ≤ 3000000) :
    (Date.ofDays n).valid = true := by
  have hperiod := Int.emod_nonneg (n + 719468) (b := 146097) (by decide)
  have hperiod' := Int.emod_lt_of_pos (n + 719468) (b := 146097) (by decide)
  obtain ⟨hy0, hy1, -⟩ := yearOfPeriod_spec _ _ hperiod hperiod' rfl
  refine Date.valid_iff.mpr ⟨?_, Date.ofDays_exists n⟩
  rw [leastYear, greatestYear]
  unfold Date.ofDays
  extract_lets z dayOfPeriod yearOfPeriod dayOfYear fromMarch day month year
  change -262143 ≤ (if month ≤ 2 then year + 1 else year) ∧
    (if month ≤ 2 then year + 1 else year) ≤ 262142
  have hera : -3 ≤ z / 146097 ∧ z / 146097 ≤ 26 := by omega
  have hyear : year = yearOfPeriod + z / 146097 * 400 := rfl
  change 0 ≤ yearOfPeriod at hy0
  change yearOfPeriod < 400 at hy1
  clear_value year yearOfPeriod month z
  omega

theorem toDays_fourDigits {d : Date} (hyear : 0 ≤ d.year ∧ d.year ≤ 9999)
    (hmonth : 1 ≤ d.month ∧ d.month ≤ 12) (hday : 1 ≤ d.day ∧ d.day ≤ 31) :
    -800000 ≤ d.toDays ∧ d.toDays ≤ 2999998 := by
  obtain ⟨y, m, day⟩ := d
  simp only at hyear hmonth hday
  rw [Date.toDays]
  by_cases hm : m ≤ 2
  · simp only [hm, if_true]
    omega
  · simp only [hm, if_false]
    omega

end ResourceQuery.Time
