import ResourceQuery.Proofs.CalendarDays
import ResourceQuery.Proofs.JsonWriting
import ResourceQuery.Time.Written

namespace ResourceQuery.Time

open Json (EndsDigits isDigit_of_mem_decimalDigits readDigits readDigits_append)
open Number (padded decimalDigits)

theorem padded_ne_nil (w n : Nat) : (padded w n).toList ≠ [] := by
  have hne : decimalDigits n ≠ [] := Nat.toDigits_ne_nil
  simp [padded, hne]

theorem padded_digits (w n : Nat) : ∀ c ∈ (padded w n).toList, c.isDigit = true := by
  intro c hc
  simp only [padded, String.toList_ofList, List.mem_append, List.mem_replicate] at hc
  rcases hc with ⟨-, rfl⟩ | hc
  · decide
  · exact isDigit_of_mem_decimalDigits hc

/-- Zeros in front change nothing. -/
theorem padded_value (w n : Nat) : Nat.ofDigitChars 10 (padded w n).toList 0 = n := by
  have hzeros : ∀ k, Nat.ofDigitChars 10 (List.replicate k '0') 0 = 0 := by
    intro k
    induction k with
    | zero => rfl
    | succ k ih => simp [List.replicate_succ, Nat.ofDigitChars_cons, ih]
  rw [padded, String.toList_ofList, Nat.ofDigitChars_append, hzeros]
  exact Nat.ofDigitChars_ten_toDigits

theorem padded_length {w n : Nat} (hw : 0 < w) (hn : n < 10 ^ w) :
    (padded w n).toList.length = w := by
  have hdigits : (decimalDigits n).length ≤ w :=
    (Nat.length_toDigits_le_iff (by decide) hw).mpr hn
  simp only [padded, String.toList_ofList, List.length_append, List.length_replicate]
  omega

/-- A run of digits ends where the digits end. -/
theorem padded_append_inj {w v m n : Nat} {r s : List Char} (hr : EndsDigits r) (hs : EndsDigits s)
    (h : (padded w m).toList ++ r = (padded v n).toList ++ s) :
    (padded w m).toList = (padded v n).toList ∧ m = n ∧ r = s := by
  have hread := readDigits_append (padded_ne_nil w m) (padded_digits w m) hr
  rw [h, readDigits_append (padded_ne_nil v n) (padded_digits v n) hs] at hread
  simp only [Except.ok.injEq, Prod.mk.injEq] at hread
  obtain ⟨htext, hrest⟩ := hread
  have hvalue : m = n := by rw [← padded_value w m, ← htext, padded_value]
  exact ⟨htext.symm, hvalue, hrest.symm⟩

theorem endsDigits_cons {c : Char} (hc : ¬ c.isDigit) (r : List Char) : EndsDigits (c :: r) := by
  intro d t h
  cases h
  exact hc

theorem padded_ne_cons (w n : Nat) (r : List Char) {c : Char} (hc : ¬ c.isDigit) (s : List Char) :
    (padded w n).toList ++ r ≠ c :: s := by
  intro h
  obtain ⟨d, ds, hds⟩ := List.exists_cons_of_ne_nil (padded_ne_nil w n)
  have hd := padded_digits w n d (by simp [hds])
  rw [hds, List.cons_append] at h
  cases h
  exact hc hd

/-- A year is plain, or has its sign in front. -/
theorem printYear_cases (y : Int) :
    (0 ≤ y ∧ y ≤ 9999) ∧ (printYear y).toList = (padded 4 y.natAbs).toList ∨
    y < 0 ∧ (printYear y).toList = '-' :: (padded 4 y.natAbs).toList ∨
    9999 < y ∧ (printYear y).toList = '+' :: (padded 4 y.natAbs).toList := by
  by_cases hplain : 0 ≤ y ∧ y ≤ 9999
  · have habs : y.toNat = y.natAbs := by omega
    exact .inl ⟨hplain, by rw [printYear, if_pos hplain, habs]⟩
  by_cases hneg : y < 0
  · exact .inr (.inl ⟨hneg, by simp [printYear, hplain, hneg]⟩)
  · exact .inr (.inr ⟨by omega, by simp [printYear, hplain, hneg]⟩)

theorem printYear_append_inj {y z : Int} {r s : List Char} (hr : EndsDigits r) (hs : EndsDigits s)
    (h : (printYear y).toList ++ r = (printYear z).toList ++ s) : y = z ∧ r = s := by
  have hminus : ¬ '-'.isDigit := by decide
  have hplus : ¬ '+'.isDigit := by decide
  have hpart {y z : Int} (hsign : y < 0 ↔ z < 0)
      (h : (padded 4 y.natAbs).toList ++ r = (padded 4 z.natAbs).toList ++ s) : y = z ∧ r = s := by
    obtain ⟨-, habs, hrest⟩ := padded_append_inj hr hs h
    exact ⟨by omega, hrest⟩
  rcases printYear_cases y with ⟨hy, hty⟩ | ⟨hy, hty⟩ | ⟨hy, hty⟩ <;>
  rcases printYear_cases z with ⟨hz, htz⟩ | ⟨hz, htz⟩ | ⟨hz, htz⟩ <;>
  rw [hty, htz] at h
  · exact hpart (by omega) h
  · exact absurd h (padded_ne_cons _ _ _ hminus _)
  · exact absurd h (padded_ne_cons _ _ _ hplus _)
  · exact absurd h.symm (padded_ne_cons _ _ _ hminus _)
  · exact hpart (by omega) (List.cons.inj h).2
  · exact absurd (List.cons.inj h).1 (by decide)
  · exact absurd h.symm (padded_ne_cons _ _ _ hplus _)
  · exact absurd (List.cons.inj h).1 (by decide)
  · exact hpart (by omega) (List.cons.inj h).2

/-- A fraction is left out, or is a number of one of three units. -/
theorem printFraction_cases {n : Nat} (hn : n < nanosPerSecond) :
    n = 0 ∧ printFraction n = "" ∨
    ∃ w k, 0 < w ∧ w ≤ 9 ∧ k < 10 ^ w ∧ n = k * 10 ^ (9 - w) ∧
      printFraction n = "." ++ padded w k := by
  rw [nanosPerSecond] at hn
  by_cases h0 : n = 0
  · exact .inl ⟨h0, by rw [printFraction, if_pos h0]⟩
  by_cases h3 : n % 1000000 = 0
  · exact .inr ⟨3, n / 1000000, by decide, by decide, by omega, by omega, by
      rw [printFraction, if_neg h0, if_pos h3]⟩
  by_cases h6 : n % 1000 = 0
  · exact .inr ⟨6, n / 1000, by decide, by decide, by omega, by omega, by
      rw [printFraction, if_neg h0, if_neg h3, if_pos h6]⟩
  · exact .inr ⟨9, n, by decide, by decide, by omega, by omega, by
      rw [printFraction, if_neg h0, if_neg h3, if_neg h6]⟩

theorem printFraction_inj {m n : Nat} (hm : m < nanosPerSecond) (hn : n < nanosPerSecond)
    (h : (printFraction m).toList ++ ['Z'] = (printFraction n).toList ++ ['Z']) : m = n := by
  have hzulu : EndsDigits ['Z'] := endsDigits_cons (by decide) []
  rcases printFraction_cases hm with ⟨hm0, htm⟩ | ⟨w, k, hw, -, hk, hmk, htm⟩ <;>
  rcases printFraction_cases hn with ⟨hn0, htn⟩ | ⟨v, l, hv, -, hl, hnl, htn⟩ <;>
  rw [htm, htn] at h
  · rw [hm0, hn0]
  · simp at h
  · simp at h
  · have htail : (padded w k).toList ++ ['Z'] = (padded v l).toList ++ ['Z'] := by simpa using h
    obtain ⟨htext, hnumber, -⟩ := padded_append_inj hzulu hzulu htail
    have hunit : w = v := by rw [← padded_length hw hk, htext, padded_length hv hl]
    rw [hmk, hnl, hnumber, hunit]

theorem printFraction_endsDigits {n : Nat} (hn : n < nanosPerSecond) :
    EndsDigits ((printFraction n).toList ++ ['Z']) := by
  rcases printFraction_cases hn with ⟨-, ht⟩ | ⟨w, k, -, -, -, -, ht⟩
  · rw [ht]
    exact endsDigits_cons (by decide) []
  · rw [ht, String.toList_append]
    exact endsDigits_cons (by decide) _

/-- There is at most one leap second, and that at the end of a minute. -/
structure Instant.Proper (t : Instant) : Prop where
  once : t.nanos < 2 * nanosPerSecond
  leap : nanosPerSecond ≤ t.nanos → t.seconds % 60 = 59

theorem Instant.print_toList (t : Instant) :
    let date := Date.ofDays (t.seconds / secondsPerDay)
    let ofDay := (t.seconds % secondsPerDay).toNat
    t.print.toList = (printYear date.year).toList ++ '-' :: ((padded 2 date.month).toList ++
      '-' :: ((padded 2 date.day).toList ++ 'T' :: ((padded 2 (ofDay / 3600)).toList ++
      ':' :: ((padded 2 (ofDay / 60 % 60)).toList ++
      ':' :: ((padded 2 (ofDay % 60 + t.nanos / nanosPerSecond)).toList ++
      ((printFraction (t.nanos % nanosPerSecond)).toList ++ ['Z'])))))) := by
  simp [Instant.print, printDate]

/-- The same minute, the same second of it with a leap second counted in, and the same fraction. -/
structure Instant.Meets (t u : Instant) : Prop where
  minute : t.seconds / 60 = u.seconds / 60
  second : t.seconds % 60 + (t.nanos / nanosPerSecond : Nat) =
    u.seconds % 60 + (u.nanos / nanosPerSecond : Nat)
  fraction : t.nanos % nanosPerSecond = u.nanos % nanosPerSecond

theorem Instant.meets_of_print {t u : Instant} (h : t.print = u.print) : t.Meets u := by
  have hdash : ∀ r, EndsDigits ('-' :: r) := endsDigits_cons (by decide)
  have htee : ∀ r, EndsDigits ('T' :: r) := endsDigits_cons (by decide)
  have hcolon : ∀ r, EndsDigits (':' :: r) := endsDigits_cons (by decide)
  have hpos : 0 < nanosPerSecond := by decide
  have ht := Nat.mod_lt t.nanos hpos
  have hu := Nat.mod_lt u.nanos hpos
  have hlist := congrArg String.toList h
  rw [print_toList, print_toList] at hlist
  obtain ⟨hyear, hrest⟩ := printYear_append_inj (hdash _) (hdash _) hlist
  obtain ⟨-, hmonth, hrest⟩ := padded_append_inj (hdash _) (hdash _) (List.cons.inj hrest).2
  obtain ⟨-, hday, hrest⟩ := padded_append_inj (htee _) (htee _) (List.cons.inj hrest).2
  obtain ⟨-, hhour, hrest⟩ := padded_append_inj (hcolon _) (hcolon _) (List.cons.inj hrest).2
  obtain ⟨-, hminute, hrest⟩ := padded_append_inj (hcolon _) (hcolon _) (List.cons.inj hrest).2
  obtain ⟨-, hsecond, hrest⟩ := padded_append_inj (printFraction_endsDigits ht)
    (printFraction_endsDigits hu) (List.cons.inj hrest).2
  have hfraction := printFraction_inj ht hu hrest
  have hdays : t.seconds / secondsPerDay = u.seconds / secondsPerDay := by
    rw [← Date.toDays_ofDays (t.seconds / secondsPerDay), Date.toDays, hyear, hmonth, hday,
      ← Date.toDays, Date.toDays_ofDays]
  rw [secondsPerDay] at hdays hhour hminute hsecond
  exact ⟨by omega, by omega, hfraction⟩

/-- The second of the day enters the text by its minute and by what it is shown as. -/
theorem Instant.Meets.print_eq {t u : Instant} (h : t.Meets u) : t.print = u.print := by
  obtain ⟨hminute, hsecond, hfraction⟩ := h
  have hdays : t.seconds / 86400 = u.seconds / 86400 := by omega
  have hhour : (t.seconds % 86400).toNat / 3600 = (u.seconds % 86400).toNat / 3600 := by omega
  have hminutes : (t.seconds % 86400).toNat / 60 = (u.seconds % 86400).toNat / 60 := by omega
  have hshown : (t.seconds % 86400).toNat % 60 + t.nanos / nanosPerSecond =
      (u.seconds % 86400).toNat % 60 + u.nanos / nanosPerSecond := by omega
  simp only [print, secondsPerDay, hdays, hhour, hminutes, hshown, hfraction]

theorem Instant.print_eq_iff {t u : Instant} : t.print = u.print ↔ t.Meets u :=
  ⟨meets_of_print, Meets.print_eq⟩

/-- Points that meet differ only where one has a leap second inside a minute. -/
theorem Instant.Meets.eq {t u : Instant} (h : t.Meets u) (ht : t.Proper) (hu : u.Proper) : t = u := by
  obtain ⟨hminute, hsecond, hnanos⟩ := h
  obtain ⟨ht, htleap⟩ := ht
  obtain ⟨hu, huleap⟩ := hu
  have hseconds : t.seconds = u.seconds := by
    rw [nanosPerSecond] at *
    omega
  have hnano : t.nanos = u.nanos := by
    rw [nanosPerSecond] at *
    omega
  cases t
  cases u
  cases hseconds
  cases hnano
  rfl

end ResourceQuery.Time
