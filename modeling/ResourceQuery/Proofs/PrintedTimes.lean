import ResourceQuery.Proofs.WrittenTimes
import ResourceQuery.Engine.Clause

namespace ResourceQuery.Time

open Json (EndsWhole)
open Number (padded)
open Text (EndsPlain trim_around)

/-- A sign makes room for years of more than four digits. -/
theorem number_signed {n : Nat} (hn : n ≤ Number.maxNat64) (r : List Char) :
    number? 1 ((padded 4 n).toList ++ '-' :: r).length ((padded 4 n).toList ++ '-' :: r) =
      some (n, '-' :: r) := by
  have hdigits : Digits (padded 4 n).toList.length n (padded 4 n).toList :=
    ⟨rfl, padded_digits 4 n, padded_value 4 n⟩
  have hpos : 1 ≤ (padded 4 n).toList.length := List.length_pos_iff.mpr (padded_ne_nil 4 n)
  have hend := endsDigits_cons (by decide : ¬ '-'.isDigit) r
  exact number_digits hdigits hpos (by simp) hn (.inr hend)

theorem yearText_printYear {y : Int} (hy : y.natAbs ≤ Number.maxNat64) :
    YearText y (printYear y).toList := by
  rcases printYear_cases y with ⟨hrange, htext⟩ | ⟨hneg, htext⟩ | ⟨hlate, htext⟩
  · have hnat : (y.natAbs : Int) = y := by omega
    have hplain := yearText_digits (digits_padded (by decide) (by omega : y.natAbs < 10 ^ 4))
    rw [hnat] at hplain
    rw [htext]
    exact hplain
  · intro r
    have hsign : Text.trimStart ('-' :: ((padded 4 y.natAbs).toList ++ '-' :: r)) = _ :=
      List.dropWhile_cons_of_neg (by decide)
    have hnat : -(y.natAbs : Int) = y := by omega
    rw [htext, List.cons_append, looseYear?, hsign]
    simp only [number_signed hy, Option.map_some, hnat]
  · intro r
    have hsign : Text.trimStart ('+' :: ((padded 4 y.natAbs).toList ++ '-' :: r)) = _ :=
      List.dropWhile_cons_of_neg (by decide)
    have hnat : (y.natAbs : Int) = y := by omega
    rw [htext, List.cons_append, looseYear?, hsign]
    simp only [number_signed hy, Option.map_some, hnat]

theorem fractionText_printFraction {n : Nat} (hn : n < nanosPerSecond) :
    FractionText n (printFraction n).toList := by
  rcases printFraction_cases hn with ⟨rfl, htext⟩ | ⟨w, k, hw, hw9, hk, rfl, htext⟩
  · rw [htext]
    exact .none
  · have hlen := padded_length hw hk
    have hnanos : fractionNanos (padded w k).toList = k * 10 ^ (9 - w) := by
      rw [fractionNanos_eq, List.take_of_length_le (by omega), hlen, padded_value]
    have hdigits := FractionText.digits (padded_ne_nil w k) (padded_digits w k)
    rw [hnanos] at hdigits
    rw [htext, String.toList_append]
    exact hdigits

/-- The day in UTC. -/
def Instant.date (t : Instant) : Date :=
  Date.ofDays (t.seconds / secondsPerDay)

/-- The time of day in UTC, a leap second as second 60. -/
def Instant.clock (t : Instant) : Clock :=
  let ofDay := (t.seconds % secondsPerDay).toNat
  ⟨ofDay / 3600, ofDay / 60 % 60, ofDay % 60 + t.nanos / nanosPerSecond, t.nanos % nanosPerSecond⟩

theorem Instant.Proper.clock_range {t : Instant} (h : t.Proper) :
    t.clock.hour ≤ 23 ∧ t.clock.minute ≤ 59 ∧ t.clock.second ≤ 60 ∧
      t.clock.nanos < nanosPerSecond := by
  obtain ⟨honce, hleap⟩ := h
  simp only [Instant.clock]
  rw [secondsPerDay]
  rw [nanosPerSecond] at *
  omega

theorem Instant.Proper.second_iff {t : Instant} (h : t.Proper) :
    t.clock.second = 60 ↔ nanosPerSecond ≤ t.nanos := by
  obtain ⟨honce, hleap⟩ := h
  simp only [Instant.clock]
  rw [secondsPerDay]
  rw [nanosPerSecond] at *
  omega

/-- Date and clock show the point that they are taken from. -/
theorem Instant.Proper.instant_clock {t : Instant} (h : t.Proper) (hvalid : t.date.valid = true) :
    instant? t.date t.clock 0 = some t := by
  have hdays : t.date.toDays = t.seconds / secondsPerDay := Date.toDays_ofDays _
  have hofDay : t.clock.hour * 3600 + t.clock.minute * 60 + (t.seconds % secondsPerDay).toNat % 60 =
      (t.seconds % secondsPerDay).toNat := by
    simp only [Instant.clock]
    omega
  have hseconds : t.seconds / secondsPerDay * secondsPerDay + (t.seconds % secondsPerDay).toNat =
      t.seconds := by
    rw [secondsPerDay]
    omega
  have hnanos : t.clock.nanos = t.nanos % nanosPerSecond := rfl
  have honce := h.once
  by_cases hleap : nanosPerSecond ≤ t.nanos
  · have h60 := h.second_iff.mpr hleap
    have hlast : (t.seconds % secondsPerDay).toNat % 60 = 59 := by
      have hmod := h.leap hleap
      rw [secondsPerDay]
      omega
    have hwhole : nanosPerSecond + t.nanos % nanosPerSecond = t.nanos := by
      rw [nanosPerSecond] at *
      omega
    rw [hlast] at hofDay
    simp only [instant?, h60, if_true, hofDay, hdays, hseconds, hnanos, hwhole, Int.sub_zero]
    rw [← Instant.date, hvalid]
    rfl
  · have h60 := mt h.second_iff.mp hleap
    have hsecond : t.clock.second = (t.seconds % secondsPerDay).toNat % 60 := by
      simp only [Instant.clock]
      rw [Nat.div_eq_of_lt (Nat.not_le.mp hleap), Nat.add_zero]
    have hwhole : t.nanos % nanosPerSecond = t.nanos := Nat.mod_eq_of_lt (Nat.not_le.mp hleap)
    rw [← hsecond] at hofDay
    simp only [instant?, h60, if_false, hofDay, hdays, hseconds, hnanos, hwhole, Int.sub_zero,
      Nat.zero_add]
    rw [← Instant.date, hvalid]
    rfl

/-- A point that a date and a clock show lies in the supported range. -/
theorem Shown.date_valid {t : Instant} (h : Shown t) : t.date.valid = true := by
  obtain ⟨d, c, offset, -, -, ht⟩ := h
  unfold instant? at ht
  obtain ⟨hvalid, heq⟩ := Option.ite_none_right_eq_some.mp ht
  cases heq
  exact (Bool.and_eq_true_iff.mp hvalid).2

/-- The parts of a printed text have full width, all but the year. -/
theorem Instant.Proper.print_parts {t : Instant} (h : t.Proper) (hvalid : t.date.valid = true) :
    ∃ ms ds ks ss fs, Digits 2 t.date.month ms ∧ Digits 2 t.date.day ds ∧
      MinutesText t.clock.hour t.clock.minute ks ∧ Digits 2 t.clock.second ss ∧
      FractionText t.clock.nanos fs ∧
      t.print.toList = (printYear t.date.year).toList ++
        '-' :: (ms ++ '-' :: (ds ++ 'T' :: (ks ++ ':' :: (ss ++ (fs ++ ['Z']))))) := by
  obtain ⟨hhour, hminute, hsecond, hnanos⟩ := h.clock_range
  obtain ⟨-, ⟨hmonth1, hmonth12⟩, hday1, hdaylen⟩ := Date.valid_iff.mp hvalid
  have hday31 := daysInMonth_le t.date.year t.date.month
  refine ⟨_, _, _, _, _, digits_padded (by decide) (by omega), digits_padded (by decide) (by omega),
    .mk (digits_padded (by decide) (by omega)) (digits_padded (by decide) (by omega)),
    digits_padded (by decide) (by omega), fractionText_printFraction hnanos, ?_⟩
  rw [Instant.print_toList]
  simp only [List.append_assoc, List.cons_append]
  rfl

theorem printYear_trimStart (y : Int) (r : List Char) :
    Text.trimStart ((printYear y).toList ++ r) = (printYear y).toList ++ r := by
  rcases printYear_cases y with ⟨hrange, htext⟩ | ⟨-, htext⟩ | ⟨-, htext⟩ <;> rw [htext]
  · exact trimStart_digits (digits_padded (by decide) (by omega : y.natAbs < 10 ^ 4)) (by decide)
  · exact List.dropWhile_cons_of_neg (by decide)
  · exact List.dropWhile_cons_of_neg (by decide)

theorem strictOffset_zulu {p : Int × List Char} : strictOffset? ['Z'] = some p ↔ p = (0, []) := by
  rw [strictOffset?, Option.some.injEq, eq_comm]

theorem endsWhole_zulu : EndsWhole ['Z'] :=
  endsWhole_cons (by decide) []

/-- No form but RFC 3339 reads a printed text. -/
theorem parse_print_iff {t u : Instant} (h : t.Proper) (hvalid : t.date.valid = true) :
    parse? t.print.toList = some u ↔ rfc3339? t.print.toList = some u := by
  obtain ⟨ms, ds, ks, ss, fs, hm, hd, hk, hs, hf, htext⟩ := h.print_parts hvalid
  have hyear : t.date.year.natAbs ≤ Number.maxNat64 := by
    obtain ⟨hrange, -⟩ := Date.valid_iff.mp hvalid
    rw [leastYear, greatestYear] at hrange
    rw [Number.maxNat64]
    omega
  have hfront : FullText t.date 'T' t.clock _ :=
    .mk (.mk (yearText_printYear hyear) hm hd) hk hs hf
  obtain ⟨-, z, hne, hz, hzulu⟩ := offset_spelled (strictOffset_zulu.mpr rfl)
  have hlayout (l : Layout) := layout_fullText (l := l) hfront (.inl rfl) hz hne hzulu
  simp only [List.append_assoc, List.cons_append] at hlayout
  have hstart : ∀ r, Text.trimStart (t.print.toList ++ r) = t.print.toList ++ r := by
    intro r
    rw [htext, List.append_assoc]
    exact printYear_trimStart _ _
  have hend : EndsPlain t.print.toList := by
    refine Text.EndsPlain.of_suffix ⟨[], 'Z', rfl, by decide⟩ ?_
    exact ⟨(printYear t.date.year).toList ++ '-' :: (ms ++ '-' :: (ds ++ 'T' :: (ks ++
      ':' :: (ss ++ fs)))), by simp [htext]⟩
  have htrim := trim_around (List.forall_mem_nil _) (List.forall_mem_nil _) hstart hend
  rw [List.nil_append, List.append_nil] at htrim
  rw [parse_iff, htrim]
  constructor
  · intro hread
    obtain ⟨l, hl⟩ := hread
    have hfull := layout_of_read hl
    rw [htext, hlayout] at hfull
    obtain ⟨-, -, -, rfl⟩ := hfull
    exact hl
  · exact fun hread => ⟨.full, hread⟩

/-- RFC 3339 knows no years with a sign. -/
theorem rfc3339_sign {c : Char} (hc : ¬ c.isDigit) (cs : List Char) : rfc3339? (c :: cs) = none := by
  have hyear : number? 4 4 (c :: cs) = none := by
    simp [number?, hc]
  rw [rfc3339?, hyear]
  rfl

theorem rfc3339_print_early_late {t : Instant} (hyear : ¬ (0 ≤ t.date.year ∧ t.date.year ≤ 9999)) :
    rfc3339? t.print.toList = none := by
  rw [Instant.print_toList]
  rcases printYear_cases t.date.year with ⟨hrange, -⟩ | ⟨-, htext⟩ | ⟨-, htext⟩
  · exact absurd hrange hyear
  · rw [← Instant.date, htext]
    exact rfc3339_sign (by decide) _
  · rw [← Instant.date, htext]
    exact rfc3339_sign (by decide) _

theorem rfc3339_print {t u : Instant} (h : t.Proper) (hvalid : t.date.valid = true)
    (hyear : 0 ≤ t.date.year ∧ t.date.year ≤ 9999) :
    rfc3339? t.print.toList = some u ↔ t = u := by
  obtain ⟨ms, ds, ks, ss, fs, hm, hd, hk, hs, hf, htext⟩ := h.print_parts hvalid
  obtain ⟨hhour, hminute, hsecond, -⟩ := h.clock_range
  obtain ⟨-, hmonth, hday1, hdaylen⟩ := Date.valid_iff.mp hvalid
  have hday : 1 ≤ t.date.day ∧ t.date.day ≤ 31 := ⟨hday1, hdaylen.trans (daysInMonth_le _ _)⟩
  have hplain : (printYear t.date.year).toList = (padded 4 t.date.year.natAbs).toList := by
    rcases printYear_cases t.date.year with ⟨-, hplain⟩ | ⟨hneg, -⟩ | ⟨hlate, -⟩
    · exact hplain
    all_goals omega
  have hys := digits_padded (by decide) (by omega : t.date.year.natAbs < 10 ^ 4)
  rw [htext, hplain, rfc3339_iff hys (by omega) hm hd (.inl rfl) hk hs hf endsWhole_zulu]
  simp only [strictOffset_zulu, Prod.mk.injEq, and_true, exists_eq_left, h.instant_clock hvalid,
    Option.some.injEq, hmonth, hday, hhour, hminute, hsecond, and_self, true_and]

/-- The text that stands for a date in a request is read as the same date if the year is one of the
years 0 to 9999, and is refused otherwise. -/
theorem date_text_read_back {cs : List Char} {t : Instant} (h : parse? cs = some t) :
    ∃ (d : Date) (s : String),
      (∀ e : Date, e.Exists ∧ e.dayNumber = t.seconds / 86400 ↔ e = d) ∧
      (Scalar.date t).toJson = .string s ∧
      parse? s.toList = if 0 ≤ d.year ∧ d.year ≤ 9999 then some t else none := by
  have hproper := parse_proper h
  have hvalid := (parse_shown h).date_valid
  refine ⟨t.date, t.print, fun e => Date.numbered_iff, rfl, Option.ext fun u => ?_⟩
  rw [parse_print_iff hproper hvalid]
  by_cases hyear : 0 ≤ t.date.year ∧ t.date.year ≤ 9999
  · rw [rfc3339_print hproper hvalid hyear, if_pos hyear, Option.some.injEq]
  · rw [rfc3339_print_early_late hyear, if_neg hyear]

/-- The offset moves the last evening of a four-digit year behind it, so that the text of the point
has a sign and is refused. -/
theorem lastEvening_text_refused :
    parse? "9999-12-31T23:30-01:00".toList = some ⟨253402302600, 0⟩ ∧
      (Scalar.date ⟨253402302600, 0⟩).toJson = .string "+10000-01-01T00:30:00Z" ∧
      parse? "+10000-01-01T00:30:00Z".toList = none := by
  have hread : parse? "9999-12-31T23:30-01:00".toList = some ⟨253402302600, 0⟩ := by decide +kernel
  have hprint : (⟨253402302600, 0⟩ : Instant).print = "+10000-01-01T00:30:00Z" := by decide +kernel
  have htext : (Scalar.date ⟨253402302600, 0⟩).toJson = .string "+10000-01-01T00:30:00Z" :=
    congrArg Json.string hprint
  obtain ⟨d, s, hd, hs, hback⟩ := date_text_read_back hread
  have hday : (⟨10000, 1, 1⟩ : Date) = d := by
    refine (hd _).mp ⟨⟨by decide, by decide⟩, ?_⟩
    rw [← toDays_eq_dayNumber (by decide)]
    decide
  subst hday
  obtain rfl : "+10000-01-01T00:30:00Z" = s := Json.string.inj (htext.symm.trans hs)
  exact ⟨hread, htext, hback⟩

end ResourceQuery.Time
