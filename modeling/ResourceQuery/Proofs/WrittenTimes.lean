import ResourceQuery.Proofs.TimeForms

namespace ResourceQuery.Time

open Json (EndsDigits EndsWhole)
open Number (padded)
open Text (EndsPlain isBlank_of_isDigit trim_around)

/-- The text of a part of two digits. -/
def twoDigits (n : Fin 100) : List Char :=
  (padded 2 n).toList

structure DayFields where
  year : Fin 10000
  month : Fin 100
  day : Fin 100

def DayFields.text (d : DayFields) : List Char :=
  (padded 4 d.year).toList ++ '-' :: (twoDigits d.month ++ '-' :: twoDigits d.day)

def DayFields.date (d : DayFields) : Date :=
  ⟨(d.year : Nat), d.month, d.day⟩

structure MinuteFields where
  hour : Fin 100
  minute : Fin 100

def MinuteFields.text (m : MinuteFields) : List Char :=
  twoDigits m.hour ++ ':' :: twoDigits m.minute

/-- The digits of a fraction, one at least. -/
structure Fraction where
  digits : List Char
  nonempty : digits ≠ []
  isDigit : ∀ c ∈ digits, c.isDigit = true

def fractionText : Option Fraction → List Char
  | none => []
  | some f => '.' :: f.digits

/-- `Z` or `z`, or hours and minutes east or west of UTC. -/
inductive Zone where
  | zulu (small : Bool)
  | offset (west : Bool) (hour minute : Fin 100)

/-- A colon may stand between hours and minutes. -/
def Zone.text (colon : Bool) : Zone → List Char
  | zulu small => [if small then 'z' else 'Z']
  | offset west hour minute =>
    (if west then '-' else '+') ::
      (twoDigits hour ++ ((if colon then [':'] else []) ++ twoDigits minute))

inductive WrittenTime where
  /-- To the second, with a zone. -/
  | full (day : DayFields) (sep : Separator) (time : MinuteFields) (second : Fin 100)
      (fraction : Option Fraction) (zone : Zone)
  /-- To the minute, with a zone. -/
  | zoned (day : DayFields) (sep : Separator) (time : MinuteFields) (zone : Zone) (colon : Bool)
  /-- To the second, without a zone. -/
  | second (day : DayFields) (sep : Separator) (time : MinuteFields) (second : Fin 100)
      (fraction : Option Fraction)
  /-- To the minute, without a zone. -/
  | minute (day : DayFields) (sep : Separator) (time : MinuteFields)
  | day (day : DayFields)

namespace WrittenTime

def text : WrittenTime → List Char
  | full d sep k s f z =>
    d.text ++ sep.char :: (k.text ++ ':' :: (twoDigits s ++ (fractionText f ++ z.text true)))
  | zoned d sep k z colon => d.text ++ sep.char :: (k.text ++ z.text colon)
  | second d sep k s f => d.text ++ sep.char :: (k.text ++ ':' :: (twoDigits s ++ fractionText f))
  | minute d sep k => d.text ++ sep.char :: k.text
  | day d => d.text

def date : WrittenTime → Date
  | full d .. | zoned d .. | second d .. | minute d .. | day d => d.date

def nanos : Option Fraction → Nat
  | none => 0
  | some f => fractionNanos f.digits

/-- The time of day; parts that are not written are zero. -/
def clock : WrittenTime → Clock
  | full _ _ k s f _ | second _ _ k s f => ⟨k.hour, k.minute, s, nanos f⟩
  | zoned _ _ k .. | minute _ _ k => ⟨k.hour, k.minute, 0, 0⟩
  | day _ => ⟨0, 0, 0, 0⟩

/-- A time without a zone is one in UTC. -/
def zone : WrittenTime → Zone
  | full _ _ _ _ _ z | zoned _ _ _ z _ => z
  | second .. | minute .. | day _ => .zulu false

end WrittenTime

def Zone.Exists : Zone → Prop
  | zulu _ => True
  | offset _ hour minute => (hour : Nat) < 24 ∧ (minute : Nat) < 60

/-- Seconds east of UTC. -/
def Zone.seconds : Zone → Int
  | zulu _ => 0
  | offset west hour minute =>
    if west then -(hour * 3600 + minute * 60) else hour * 3600 + minute * 60

/-- Second 60 is a leap second. -/
structure Clock.Exists (c : Clock) : Prop where
  hour : c.hour < 24
  minute : c.minute < 60
  second : c.second ≤ 60

/-- The instant that a date and a clock show: a leap second is a second behind second 59. -/
def shownInstant (d : Date) (c : Clock) (offset : Int) : Instant :=
  ⟨d.dayNumber * 86400 + (c.hour * 3600 + c.minute * 60 + min c.second 59) - offset,
   c.nanos + if c.second = 60 then 1000000000 else 0⟩

structure WrittenTime.Exists (w : WrittenTime) : Prop where
  date : w.date.Exists
  clock : w.clock.Exists
  zone : w.zone.Exists

def WrittenTime.instant (w : WrittenTime) : Instant :=
  shownInstant w.date w.clock w.zone.seconds

theorem digits_two (n : Fin 100) : Digits 2 n (twoDigits n) :=
  digits_padded (by decide) n.isLt

theorem twoDigits_follows (n : Fin 100) : FollowsDigit [] (twoDigits n) := by
  simpa using followsDigit_append ((digits_two n).ne_nil (by decide)) (digits_two n).digits []

theorem DayFields.year_digits (d : DayFields) : Digits 4 d.year (padded 4 d.year).toList :=
  digits_padded (by decide) d.year.isLt

theorem DayFields.dateText (d : DayFields) : DateText d.date d.text :=
  .mk (yearText_digits d.year_digits) (digits_two d.month) (digits_two d.day)

theorem MinuteFields.minutesText (m : MinuteFields) : MinutesText m.hour m.minute m.text :=
  .mk (digits_two m.hour) (digits_two m.minute)

theorem fractionText_spec (f : Option Fraction) :
    FractionText (WrittenTime.nanos f) (fractionText f) := by
  cases f with
  | none => exact .none
  | some f => exact .digits f.nonempty f.isDigit

/-- A four-digit date and a time of day that are in range make a point in time. -/
theorem instant_iff {d : Date} {c : Clock} {offset : Int} {t : Instant}
    (hyear : 0 ≤ d.year ∧ d.year ≤ 9999) (hmonth : 1 ≤ d.month ∧ d.month ≤ 12)
    (hday : 1 ≤ d.day ∧ d.day ≤ 31) (hc : c.Exists) (ho : -86400 < offset ∧ offset < 86400) :
    instant? d c offset = some t ↔ d.Exists ∧ t = shownInstant d c offset := by
  obtain ⟨hhour, hminute, hsecond⟩ := hc
  have hdays := toDays_fourDigits hyear hmonth hday
  have hnumber := toDays_eq_dayNumber hmonth
  have hsupported : leastYear ≤ d.year ∧ d.year ≤ greatestYear := by
    rw [leastYear, greatestYear]
    omega
  have hvalid : d.valid = true ↔ d.Exists := by
    rw [Date.valid_iff]
    simp only [hsupported, and_self, true_and]
  have hrange (s : Nat) (hs : s < 86400) :
      (Date.ofDays ((d.toDays * secondsPerDay + s - offset) / secondsPerDay)).valid = true := by
    apply valid_ofDays <;> rw [secondsPerDay] <;> omega
  have hleap : nanosPerSecond = 1000000000 := rfl
  have hlength : secondsPerDay = 86400 := rfl
  by_cases h60 : c.second = 60
  · simp only [instant?, h60, if_true, hrange (c.hour * 3600 + c.minute * 60 + 59) (by omega),
      Bool.and_true, Option.ite_none_right_eq_some, hvalid, Option.some.injEq, @eq_comm _ t]
    simp only [shownInstant, h60, if_true, hnumber, hleap, hlength, Nat.add_comm c.nanos]
    push_cast
    rfl
  · have hle : min c.second 59 = c.second := by omega
    simp only [instant?, h60, if_false,
      hrange (c.hour * 3600 + c.minute * 60 + c.second) (by omega),
      Bool.and_true, Option.ite_none_right_eq_some, hvalid, Option.some.injEq, @eq_comm _ t]
    simp only [shownInstant, h60, if_false, hnumber, hle, hlength, Nat.zero_add, Nat.add_zero]
    push_cast
    rfl

theorem Zone.seconds_range {z : Zone} (h : z.Exists) : -86400 < z.seconds ∧ z.seconds < 86400 := by
  cases z with
  | zulu small => simp [Zone.seconds]
  | offset west hour minute =>
    obtain ⟨hh, hm⟩ := h
    cases west <;> simp only [Zone.seconds, if_true, if_false, Bool.false_eq_true] <;> omega

theorem ranged_two {low high : Nat} {n : Fin 100} {r : List Char} {p : Nat × List Char} :
    ranged? 2 2 low high (twoDigits n ++ r) = some p ↔ (low ≤ n ∧ n ≤ high) ∧ p = (↑n, r) :=
  ranged_iff (digits_two n) (Nat.le_refl 2)

theorem ranged_two_last {low high : Nat} {n : Fin 100} {p : Nat × List Char} :
    ranged? 2 2 low high (twoDigits n) = some p ↔ (low ≤ n ∧ n ≤ high) ∧ p = (↑n, []) := by
  simpa using ranged_two (n := n) (r := [])

theorem signed_eq (west : Bool) (hour minute : Fin 100) :
    Number.signed west (hour * 3600 + minute * 60) = (Zone.offset west hour minute).seconds := by
  cases west <;> simp [Number.signed, Zone.seconds]

theorem strictOffset_sign (west : Bool) (r : List Char) :
    strictOffset? ((if west then '-' else '+') :: r) = (do
      let (h, r) ← ranged? 2 2 0 23 r
      let r ← literal? ':' r
      let (m, r) ← ranged? 2 2 0 59 r
      some (Number.signed west (h * 3600 + m * 60), r)) := by
  cases west <;> rfl

theorem strictOffset_zone {z : Zone} {p : Int × List Char} :
    strictOffset? (z.text true) = some p ↔ z.Exists ∧ p = (z.seconds, []) := by
  cases z with
  | zulu small => cases small <;> simp [strictOffset?, Zone.text, Zone.Exists, Zone.seconds, eq_comm]
  | offset west hour minute =>
    simp only [Zone.text, if_true, List.singleton_append, strictOffset_sign, bind,
      Option.bind_eq_some_iff, ranged_two, literal_iff, List.cons.injEq,
      ranged_two_last, and_assoc, exists_and_left, exists_eq_left, exists_eq_left', true_and,
      Nat.zero_le, signed_eq, Option.some.injEq, Zone.Exists, @eq_comm _ p, Nat.lt_succ_iff]

theorem looseOffset_sign (west : Bool) (r : List Char) :
    looseOffset? ((if west then '-' else '+') :: r) = (do
      let (h, r) ← ranged? 2 2 0 23 r
      let r := r.dropWhile fun c => c == ':' || Text.isBlank c
      if r.isEmpty then some (Number.signed west (h * 3600))
      else
        let (m, r) ← ranged? 2 2 0 59 r
        if r.isEmpty then some (Number.signed west (h * 3600 + m * 60)) else none) := by
  cases west <;> rfl

theorem dropWhile_twoDigits (colon : Bool) (n : Fin 100) :
    ((if colon then [':'] else []) ++ twoDigits n).dropWhile (fun c => c == ':' || Text.isBlank c) =
      twoDigits n := by
  obtain ⟨c, cs, hcs⟩ := List.exists_cons_of_ne_nil ((digits_two n).ne_nil (by decide))
  have hdigit := (digits_two n).digits c (by simp [hcs])
  have hcolon : c ≠ ':' := by
    rintro rfl
    simp at hdigit
  have hstop : (twoDigits n).dropWhile (fun c => c == ':' || Text.isBlank c) = twoDigits n := by
    rw [hcs, List.dropWhile_cons_of_neg (by simp [hcolon, isBlank_of_isDigit hdigit])]
  cases colon with
  | false => simpa only [Bool.false_eq_true, if_false, List.nil_append] using hstop
  | true =>
    simp only [if_true, List.singleton_append]
    rw [List.dropWhile_cons_of_pos (by decide), hstop]

theorem looseOffset_zone {west colon : Bool} {hour minute : Fin 100} {offset : Int} :
    looseOffset? ((Zone.offset west hour minute).text colon) = some offset ↔
      (Zone.offset west hour minute).Exists ∧ offset = (Zone.offset west hour minute).seconds := by
  have hne : (twoDigits minute).isEmpty = false := by
    simpa using (digits_two minute).ne_nil (by decide)
  simp only [Zone.text, looseOffset_sign, bind, Option.bind_eq_some_iff, ranged_two,
    dropWhile_twoDigits, hne, Bool.false_eq_true, if_false, ranged_two_last, and_assoc,
    exists_and_left, exists_eq_left, true_and, Nat.zero_le, List.isEmpty_nil, if_true, signed_eq,
    Option.some.injEq, Zone.Exists, @eq_comm _ offset, Nat.lt_succ_iff]

/-- A zone at the end of a text, as the loose forms have it before them. -/
theorem spellZulu_zone (z : Zone) (colon : Bool) :
    ∃ west hour minute colon', (∀ front, spellZulu (front ++ z.text colon) =
        front ++ (Zone.offset west hour minute).text colon') ∧
      ((Zone.offset west hour minute).Exists ↔ z.Exists) ∧
      (Zone.offset west hour minute).seconds = z.seconds := by
  cases z with
  | zulu small =>
    refine ⟨false, 0, 0, false, ?_, by simp [Zone.Exists], by simp [Zone.seconds]⟩
    intro front
    rw [Zone.text, spellZulu_zulu front (by cases small <;> simp)]
    rfl
  | offset west hour minute =>
    refine ⟨west, hour, minute, colon, ?_, Iff.rfl, rfl⟩
    intro front
    apply spellZulu_of_digit
    refine (twoDigits_follows minute).of_suffix ?_
    exact ⟨front ++ (if west then '-' else '+') ::
      (twoDigits hour ++ if colon then [':'] else []), by simp [Zone.text]⟩

theorem Zone.text_endsWhole (z : Zone) (colon : Bool) :
    EndsWhole (z.text colon) ∧ z.text colon ≠ [] := by
  cases z with
  | zulu small => cases small <;> exact ⟨endsWhole_cons (by decide) [], by simp [Zone.text]⟩
  | offset west hour minute =>
    refine ⟨endsWhole_sign ?_ _, by simp [Zone.text]⟩
    cases west <;> simp

theorem read_day (d : DayFields) {t : Instant} :
    midnight? d.text = some t ↔
      (1 ≤ d.date.month ∧ d.date.month ≤ 12) ∧ (1 ≤ d.date.day ∧ d.date.day ≤ 31) ∧
        instant? d.date ⟨0, 0, 0, 0⟩ 0 = some t := by
  have hd (p : Date × List Char) := looseDate_iff (r := []) (p := p) d.dateText
  rw [List.append_nil] at hd
  simp only [midnight?, bind, Option.bind_eq_some_iff, hd, and_assoc, exists_and_left,
    exists_eq_left, List.isEmpty_nil, if_true]

theorem read_minute (d : DayFields) (sep : Separator) (k : MinuteFields) {t : Instant} :
    minuteInUtc? sep (d.text ++ sep.char :: k.text) = some t ↔
      (1 ≤ d.date.month ∧ d.date.month ≤ 12) ∧ (1 ≤ d.date.day ∧ d.date.day ≤ 31) ∧
        (k.hour : Nat) ≤ 23 ∧ (k.minute : Nat) ≤ 59 ∧
        instant? d.date ⟨k.hour, k.minute, 0, 0⟩ 0 = some t := by
  have htake := take_char sep k.minutesText []
  have hk (p : Nat × Nat × List Char) := looseMinutes_iff (r := []) (p := p) k.minutesText
  rw [List.append_nil] at htake hk
  simp only [minuteInUtc?, bind, Option.bind_eq_some_iff, looseDate_iff d.dateText, htake,
    Option.some.injEq, hk, and_assoc, exists_and_left, exists_eq_left, exists_eq_left',
    List.isEmpty_nil, if_true]

theorem read_second (d : DayFields) (sep : Separator) (k : MinuteFields) (s : Fin 100)
    (f : Option Fraction) {t : Instant} :
    secondInUtc? sep (d.text ++ sep.char :: (k.text ++ ':' :: (twoDigits s ++ fractionText f))) =
        some t ↔
      (1 ≤ d.date.month ∧ d.date.month ≤ 12) ∧ (1 ≤ d.date.day ∧ d.date.day ≤ 31) ∧
        (k.hour : Nat) ≤ 23 ∧ (k.minute : Nat) ≤ 59 ∧ (s : Nat) ≤ 60 ∧
        instant? d.date ⟨k.hour, k.minute, s, WrittenTime.nanos f⟩ 0 = some t := by
  have hnothing : EndsWhole [] := nofun
  have hf (p : Nat × List Char) := fraction_iff (p := p) (fractionText_spec f) hnothing
  rw [List.append_nil] at hf
  simp only [secondInUtc?, bind, Option.bind_eq_some_iff, looseDate_iff d.dateText,
    take_char sep k.minutesText, Option.some.injEq, looseMinutes_iff k.minutesText, literal_iff,
    List.cons.injEq, loosePart_iff (digits_two s), hf, and_assoc, exists_and_left, exists_eq_left,
    exists_eq_left', List.isEmpty_nil, if_true, true_and, Nat.zero_le]

theorem read_zoned (d : DayFields) (sep : Separator) (k : MinuteFields) (z : Zone) (colon : Bool)
    {t : Instant} :
    minuteWithOffset? sep (spellZulu (d.text ++ sep.char :: (k.text ++ z.text colon))) = some t ↔
      (1 ≤ d.date.month ∧ d.date.month ≤ 12) ∧ (1 ≤ d.date.day ∧ d.date.day ≤ 31) ∧
        (k.hour : Nat) ≤ 23 ∧ (k.minute : Nat) ≤ 59 ∧ z.Exists ∧
        instant? d.date ⟨k.hour, k.minute, 0, 0⟩ z.seconds = some t := by
  obtain ⟨west, hour, minute, colon', hspell, hexists, hseconds⟩ := spellZulu_zone z colon
  have htext : spellZulu (d.text ++ sep.char :: (k.text ++ z.text colon)) =
      d.text ++ sep.char :: (k.text ++ (Zone.offset west hour minute).text colon') := by
    simpa using hspell (d.text ++ sep.char :: k.text)
  rw [htext]
  simp only [minuteWithOffset?, bind, Option.bind_eq_some_iff, looseDate_iff d.dateText,
    take_char sep k.minutesText, Option.some.injEq, looseMinutes_iff k.minutesText,
    looseOffset_zone, hexists, hseconds, and_assoc, exists_and_left, exists_eq_left,
    exists_eq_left']

theorem isSeparator_char (sep : Separator) : IsSeparator sep.char := by
  cases sep with
  | letter => exact .inl rfl
  | blanks => exact .inr (.inr rfl)

theorem read_full (d : DayFields) (sep : Separator) (k : MinuteFields) (s : Fin 100)
    (f : Option Fraction) (z : Zone) {t : Instant} :
    rfc3339? (d.text ++ sep.char :: (k.text ++ ':' :: (twoDigits s ++ (fractionText f ++
        z.text true)))) = some t ↔
      (1 ≤ d.date.month ∧ d.date.month ≤ 12) ∧ (1 ≤ d.date.day ∧ d.date.day ≤ 31) ∧
        (k.hour : Nat) ≤ 23 ∧ (k.minute : Nat) ≤ 59 ∧ (s : Nat) ≤ 60 ∧ z.Exists ∧
        instant? d.date ⟨k.hour, k.minute, s, WrittenTime.nanos f⟩ z.seconds = some t := by
  have hread := rfc3339_iff (d := d.date) (c := ⟨k.hour, k.minute, s, WrittenTime.nanos f⟩)
    (t := t) d.year_digits rfl (digits_two d.month) (digits_two d.day) (isSeparator_char sep)
    k.minutesText (digits_two s) (fractionText_spec f) (z.text_endsWhole true).1
  simp only [strictOffset_zone, Prod.mk.injEq, and_true, and_assoc, exists_and_left,
    exists_eq_left] at hread
  rw [DayFields.text]
  simp only [List.append_assoc, List.cons_append, and_assoc]
  exact hread

/-- The form to which a spelling belongs. -/
def WrittenTime.layout : WrittenTime → Layout
  | full .. => .full
  | zoned _ sep .. => .offset sep
  | second _ sep .. => .second sep
  | minute _ sep .. => .minute sep
  | day _ => .day

theorem clock_exists_iff {c : Clock} :
    c.Exists ↔ c.hour ≤ 23 ∧ c.minute ≤ 59 ∧ c.second ≤ 60 := by
  constructor
  · rintro ⟨hh, hm, hs⟩
    omega
  · rintro ⟨hh, hm, hs⟩
    exact ⟨by omega, by omega, hs⟩

theorem ranged_instant_iff (d : DayFields) {c : Clock} {z : Zone} {t : Instant} :
    ((1 ≤ d.date.month ∧ d.date.month ≤ 12) ∧ (1 ≤ d.date.day ∧ d.date.day ≤ 31) ∧ c.Exists ∧
        z.Exists ∧ instant? d.date c z.seconds = some t) ↔
      (d.date.Exists ∧ c.Exists ∧ z.Exists) ∧ t = shownInstant d.date c z.seconds := by
  have hyear : 0 ≤ d.date.year ∧ d.date.year ≤ 9999 := by
    have hlt := d.year.isLt
    simp only [DayFields.date]
    omega
  constructor
  · rintro ⟨hmonth, hday, hc, hz, ht⟩
    obtain ⟨hd, rfl⟩ := (instant_iff hyear hmonth hday hc (Zone.seconds_range hz)).mp ht
    exact ⟨⟨hd, hc, hz⟩, rfl⟩
  · rintro ⟨⟨hd, hc, hz⟩, rfl⟩
    have hday : 1 ≤ d.date.day ∧ d.date.day ≤ 31 := ⟨hd.day.1, hd.day.2.trans (daysInMonth_le _ _)⟩
    exact ⟨hd.month, hday, hc, hz,
      (instant_iff hyear hd.month hday hc (Zone.seconds_range hz)).mpr ⟨hd, rfl⟩⟩

theorem WrittenTime.exists_iff {w : WrittenTime} :
    w.Exists ↔ w.date.Exists ∧ w.clock.Exists ∧ w.zone.Exists :=
  ⟨fun h => ⟨h.date, h.clock, h.zone⟩, fun h => ⟨h.1, h.2.1, h.2.2⟩⟩

/-- Its own form reads a spelling as the point that it denotes. -/
theorem read_iff (w : WrittenTime) {t : Instant} :
    w.layout.read w.text = some t ↔ w.Exists ∧ t = w.instant := by
  rw [WrittenTime.exists_iff, WrittenTime.instant]
  cases w with
  | full d sep k s f z =>
    refine (read_full d sep k s f z).trans (Iff.trans ?_ (ranged_instant_iff d))
    simp only [clock_exists_iff, WrittenTime.zone, WrittenTime.clock, and_assoc]
  | zoned d sep k z colon =>
    refine (read_zoned d sep k z colon).trans (Iff.trans ?_ (ranged_instant_iff d))
    simp only [clock_exists_iff, WrittenTime.zone, WrittenTime.clock, and_assoc, Nat.zero_le,
      true_and]
  | second d sep k s f =>
    refine (read_second d sep k s f).trans (Iff.trans ?_ (ranged_instant_iff d))
    simp only [clock_exists_iff, WrittenTime.zone, WrittenTime.clock, Zone.Exists, Zone.seconds,
      and_assoc, true_and]
  | minute d sep k =>
    refine (read_minute d sep k).trans (Iff.trans ?_ (ranged_instant_iff d))
    simp only [clock_exists_iff, WrittenTime.zone, WrittenTime.clock, Zone.Exists, Zone.seconds,
      and_assoc, Nat.zero_le, true_and]
  | day d =>
    refine (read_day d).trans (Iff.trans ?_ (ranged_instant_iff d))
    simp only [clock_exists_iff, WrittenTime.zone, WrittenTime.clock, Zone.Exists, Zone.seconds,
      Nat.zero_le, and_self, true_and]

theorem DayFields.text_follows (d : DayFields) : FollowsDigit [] d.text := by
  refine (twoDigits_follows d.day).of_suffix ?_
  exact ⟨(padded 4 d.year).toList ++ '-' :: (twoDigits d.month ++ ['-']), by simp [text]⟩

theorem MinuteFields.text_follows (k : MinuteFields) : FollowsDigit [] k.text :=
  (twoDigits_follows k.minute).of_suffix ⟨twoDigits k.hour ++ [':'], by simp [text]⟩

theorem seconds_follows (s : Fin 100) (f : Option Fraction) :
    FollowsDigit [] (twoDigits s ++ fractionText f) := by
  cases f with
  | none => simpa [fractionText] using twoDigits_follows s
  | some f =>
    have hdigits := followsDigit_append f.nonempty f.isDigit []
    rw [List.append_nil] at hdigits
    exact hdigits.of_suffix ⟨twoDigits s ++ ['.'], by simp [fractionText]⟩

theorem WrittenTime.seconds_suffix (d : DayFields) (sep : Separator) (k : MinuteFields)
    (s : Fin 100) (f : Option Fraction) :
    twoDigits s ++ fractionText f <:+ (second d sep k s f).text :=
  ⟨d.text ++ sep.char :: (k.text ++ [':']), by simp [text]⟩

theorem WrittenTime.minutes_suffix (d : DayFields) (sep : Separator) (k : MinuteFields) :
    k.text <:+ (minute d sep k).text :=
  ⟨d.text ++ [sep.char], by simp [text]⟩

/-- A spelling has no layout but its own. -/
theorem layout_text {w : WrittenTime} {l : Layout} (h : layout? w.text = some l) : l = w.layout := by
  cases w with
  | full d sep k s f z =>
    obtain ⟨west, hour, minute, colon', hspell, -, -⟩ := spellZulu_zone z true
    obtain ⟨hends, hne⟩ := (Zone.offset west hour minute).text_endsWhole colon'
    have hfront : FullText d.date sep.char ⟨k.hour, k.minute, s, WrittenTime.nanos f⟩ _ :=
      .mk d.dateText k.minutesText (digits_two s) (fractionText_spec f)
    have hlayout := layout_fullText (l := l) hfront (isSeparator_char sep) hends hne hspell
    have htext : (WrittenTime.full d sep k s f z).text =
        d.text ++ sep.char :: (k.text ++ ':' :: (twoDigits s ++ fractionText f)) ++
          z.text true := by
      simp [WrittenTime.text]
    rw [htext, hlayout] at h
    exact h.2.2.2
  | zoned d sep k z colon =>
    obtain ⟨west, hour, minute, colon', hspell, -, -⟩ := spellZulu_zone z colon
    have htext : spellZulu (WrittenTime.zoned d sep k z colon).text =
        d.text ++ sep.char :: (k.text ++ (Zone.offset west hour minute).text colon') := by
      simpa [WrittenTime.text] using hspell (d.text ++ sep.char :: k.text)
    obtain ⟨_, r, hd, hr⟩ := layout_iff.mp h
    rw [htext, looseDate_iff d.dateText] at hd
    obtain ⟨-, -, hpair⟩ := hd
    cases hpair
    obtain ⟨-, -, rfl⟩ := (layoutBehindDate_iff sep k.minutesText).mp hr
    cases west <;> rfl
  | second d sep k s f =>
    obtain ⟨_, r, hd, hr⟩ := layout_iff.mp h
    have hdigit := (seconds_follows s f).of_suffix
      (WrittenTime.seconds_suffix d sep k s f)
    have hends : endsWithSeconds (twoDigits s ++ fractionText f) = true := by
      simpa using endsWithSeconds_iff (z := []) (digits_two s) (fractionText_spec f) nofun
    rw [spellZulu_of_digit hdigit, WrittenTime.text, looseDate_iff d.dateText] at hd
    obtain ⟨-, -, hpair⟩ := hd
    cases hpair
    obtain ⟨-, -, hl⟩ := (layoutBehindDate_iff sep k.minutesText).mp hr
    rw [hl, layoutBehindMinutes, if_pos hends, WrittenTime.layout]
  | minute d sep k =>
    obtain ⟨_, r, hd, hr⟩ := layout_iff.mp h
    have hdigit := k.text_follows.of_suffix (WrittenTime.minutes_suffix d sep k)
    rw [spellZulu_of_digit hdigit, WrittenTime.text, looseDate_iff d.dateText] at hd
    obtain ⟨-, -, hpair⟩ := hd
    cases hpair
    have hk := layoutBehindDate_iff sep (r := []) (l := l) k.minutesText
    rw [List.append_nil] at hk
    obtain ⟨-, -, rfl⟩ := hk.mp hr
    rfl
  | day d =>
    obtain ⟨_, r, hd, hr⟩ := layout_iff.mp h
    have hread (p : Date × List Char) := looseDate_iff (r := []) (p := p) d.dateText
    rw [List.append_nil] at hread
    rw [WrittenTime.text, spellZulu_of_digit d.text_follows, hread] at hd
    obtain ⟨-, -, hpair⟩ := hd
    cases hpair
    cases hr
    rfl

theorem FollowsDigit.endsPlain {cs : List Char} (h : FollowsDigit [] cs) : EndsPlain cs := by
  obtain ⟨front, c, rfl, hc⟩ := h
  exact ⟨front, c, rfl, isBlank_of_isDigit hc⟩

theorem Zone.text_endsPlain (z : Zone) (colon : Bool) : EndsPlain (z.text colon) := by
  cases z with
  | zulu small => cases small <;> exact ⟨[], _, rfl, by decide⟩
  | offset west hour minute =>
    refine (twoDigits_follows minute).endsPlain.of_suffix ?_
    exact ⟨(if west then '-' else '+') :: (twoDigits hour ++ if colon then [':'] else []),
      by simp [Zone.text]⟩

theorem WrittenTime.text_endsPlain (w : WrittenTime) : EndsPlain w.text := by
  cases w with
  | full d sep k s f z =>
    refine (z.text_endsPlain true).of_suffix ?_
    exact ⟨d.text ++ sep.char :: (k.text ++ ':' :: (twoDigits s ++ fractionText f)), by simp [text]⟩
  | zoned d sep k z colon =>
    refine (z.text_endsPlain colon).of_suffix ?_
    exact ⟨d.text ++ sep.char :: k.text, by simp [text]⟩
  | second d sep k s f => exact ((seconds_follows s f).of_suffix (seconds_suffix d sep k s f)).endsPlain
  | minute d sep k => exact (k.text_follows.of_suffix (minutes_suffix d sep k)).endsPlain
  | day d => exact d.text_follows.endsPlain

theorem WrittenTime.text_start (w : WrittenTime) :
    ∃ (year : Fin 10000) (r : List Char), w.text = (padded 4 year).toList ++ r := by
  cases w with
  | full d => exact ⟨d.year, _, List.append_assoc _ _ _⟩
  | zoned d => exact ⟨d.year, _, List.append_assoc _ _ _⟩
  | second d => exact ⟨d.year, _, List.append_assoc _ _ _⟩
  | minute d => exact ⟨d.year, _, List.append_assoc _ _ _⟩
  | day d => exact ⟨d.year, _, rfl⟩

/-- A documented spelling, with blanks around it or without, is read exactly if what it names
exists, and then as the point in time that it denotes. -/
theorem documented_times_read (w : WrittenTime) (before after : List Char)
    (hbefore : ∀ c ∈ before, Text.isBlank c = true) (hafter : ∀ c ∈ after, Text.isBlank c = true)
    (t : Instant) :
    parse? (before ++ (w.text ++ after)) = some t ↔ w.Exists ∧ t = w.instant := by
  have hstart : ∀ r, Text.trimStart (w.text ++ r) = w.text ++ r := by
    intro r
    obtain ⟨year, rest, htext⟩ := w.text_start
    rw [htext, List.append_assoc]
    exact trimStart_digits (digits_padded (by decide) year.isLt) (by decide)
  rw [parse_iff, trim_around hbefore hafter hstart w.text_endsPlain, ← read_iff w]
  constructor
  · intro h
    obtain ⟨l, hl⟩ := h
    obtain rfl := layout_text (layout_of_read hl)
    exact hl
  · exact fun h => ⟨w.layout, h⟩

/-- A leap second on a leap day, half an hour west of UTC, with digits past the nanoseconds. -/
def leapEvening : WrittenTime :=
  .full ⟨2024, 2, 29⟩ .blanks ⟨23, 59⟩ 60 (some ⟨"123456789012".toList, by simp, by simp⟩)
    (.offset true 0 30)

theorem leapEvening_read :
    (∀ c ∈ ['\u2003'], Text.isBlank c = true) ∧ (∀ c ∈ ['\n'], Text.isBlank c = true) ∧
      leapEvening.text = "2024-02-29 23:59:60.123456789012-00:30".toList ∧
      parse? (['\u2003'] ++ (leapEvening.text ++ ['\n'])) = some ⟨1709252999, 1123456789⟩ := by
  have hbefore : ∀ c ∈ ['\u2003'], Text.isBlank c = true := by simp [Text.isBlank]
  have hafter : ∀ c ∈ ['\n'], Text.isBlank c = true := by simp [Text.isBlank]
  have hexists : leapEvening.Exists :=
    ⟨⟨by decide, by decide⟩, ⟨by decide, by decide, by decide⟩, by decide, by decide⟩
  have hinstant : (⟨1709252999, 1123456789⟩ : Instant) = leapEvening.instant := by decide +kernel
  exact ⟨hbefore, hafter, by decide,
    (documented_times_read leapEvening _ _ hbefore hafter _).mpr ⟨hexists, hinstant⟩⟩

end ResourceQuery.Time
