import ResourceQuery.Proofs.DigitsAndBlanks
import ResourceQuery.Proofs.InstantText

namespace ResourceQuery.Time

open Json (EndsDigits EndsWhole)
open Number (padded digitsUpTo_eq ofDigitChars_lt)
open Text (isBlank_of_isDigit)

/-- `width` digits that write `n`. -/
structure Digits (width n : Nat) (cs : List Char) : Prop where
  length : cs.length = width
  digits : ∀ c ∈ cs, c.isDigit = true
  value : Nat.ofDigitChars 10 cs 0 = n

theorem Digits.lt {w n : Nat} {cs : List Char} (h : Digits w n cs) : n < 10 ^ w := by
  obtain ⟨rfl, hdigits, rfl⟩ := h
  simpa using ofDigitChars_lt hdigits 0

theorem Digits.ne_nil {w n : Nat} {cs : List Char} (h : Digits w n cs) (hw : 0 < w) : cs ≠ [] := by
  intro hnil
  subst hnil
  have := h.length
  simp at this
  omega

theorem digits_padded {w n : Nat} (hw : 0 < w) (hn : n < 10 ^ w) :
    Digits w n (padded w n).toList :=
  ⟨padded_length hw hn, padded_digits w n, padded_value w n⟩

theorem takeWhile_digits {ds r : List Char} {most : Nat} (hds : ∀ c ∈ ds, c.isDigit = true)
    (hle : ds.length ≤ most) (hend : ds.length = most ∨ EndsDigits r) :
    ((ds ++ r).take most).takeWhile Char.isDigit = ds := by
  have hrest : (r.take (most - ds.length)).takeWhile Char.isDigit = [] := by
    rcases hend with hfull | hend
    · rw [hfull, Nat.sub_self, List.take_zero, List.takeWhile_nil]
    · cases r with
      | nil => simp
      | cons c r =>
        cases most - ds.length with
        | zero => rfl
        | succ k =>
          rw [List.take_succ_cons, List.takeWhile_cons_of_neg (hend c r rfl)]
  rw [List.take_append, List.take_of_length_le hle, List.takeWhile_append_of_pos hds, hrest,
    List.append_nil]

/-- A number that cannot go on behind its digits is read whole. -/
theorem number_digits {least most w n : Nat} {ds r : List Char} (h : Digits w n ds)
    (hleast : least ≤ w) (hmost : w ≤ most) (hlimit : n ≤ Number.maxNat64)
    (hend : w = most ∨ EndsDigits r) : number? least most (ds ++ r) = some (n, r) := by
  obtain ⟨rfl, hdigits, hvalue⟩ := h
  have htake := takeWhile_digits hdigits hmost hend
  simp only [number?, htake, if_neg (Nat.not_lt.mpr hleast), digitsUpTo_eq, hvalue, hlimit, if_true,
    Option.map_some, List.drop_left]

theorem number_split {least most n : Nat} {cs r : List Char}
    (h : number? least most cs = some (n, r)) :
    ∃ w ds, cs = ds ++ r ∧ Digits w n ds ∧ least ≤ w ∧ w ≤ most := by
  have hprefix := (List.takeWhile_prefix Char.isDigit (l := cs.take most)).trans
    (List.take_prefix most cs)
  have hmost := (List.takeWhile_prefix Char.isDigit (l := cs.take most)).length_le
  have hdigits := List.all_eq_true.mp (List.all_takeWhile (p := Char.isDigit) (l := cs.take most))
  simp only [number?, digitsUpTo_eq, Option.ite_none_left_eq_some, Option.map_eq_some_iff,
    Option.ite_none_right_eq_some, Option.some.injEq, Prod.mk.injEq] at h
  obtain ⟨hleast, _, ⟨-, rfl⟩, hvalue, rfl⟩ := h
  refine ⟨_, (cs.take most).takeWhile Char.isDigit, ?_, ⟨rfl, hdigits, hvalue⟩,
    Nat.not_lt.mp hleast, Nat.le_trans hmost (List.length_take_le _ _)⟩
  exact (List.prefix_iff_eq_append.mp hprefix).symm

theorem ranged_iff {least low high n : Nat} {ds r : List Char} {p : Nat × List Char}
    (h : Digits 2 n ds) (hleast : least ≤ 2) :
    ranged? least 2 low high (ds ++ r) = some p ↔ (low ≤ n ∧ n ≤ high) ∧ p = (n, r) := by
  have hlimit : n ≤ Number.maxNat64 := Nat.le_trans (Nat.le_of_lt h.lt) (by decide)
  simp only [ranged?, number_digits h hleast (Nat.le_refl 2) hlimit (.inl rfl),
    Option.ite_none_right_eq_some, Option.some.injEq, @eq_comm _ p]

theorem ranged_split {low high n : Nat} {cs r : List Char}
    (h : ranged? 2 2 low high cs = some (n, r)) :
    ∃ ds, cs = ds ++ r ∧ Digits 2 n ds ∧ low ≤ n ∧ n ≤ high := by
  unfold ranged? at h
  split at h
  next m r' hnumber =>
    obtain ⟨hrange, hpair⟩ := Option.ite_none_right_eq_some.mp h
    cases hpair
    obtain ⟨w, ds, hcs, hds, hlow, hhigh⟩ := number_split hnumber
    obtain rfl : w = 2 := Nat.le_antisymm hhigh hlow
    exact ⟨ds, hcs, hds, hrange⟩
  next => cases h

theorem trimStart_digits {w n : Nat} {ds r : List Char} (h : Digits w n ds) (hw : 0 < w) :
    Text.trimStart (ds ++ r) = ds ++ r := by
  obtain ⟨c, cs, rfl⟩ := List.exists_cons_of_ne_nil (h.ne_nil hw)
  have hc := isBlank_of_isDigit (h.digits c (by simp))
  rw [Text.trimStart, List.cons_append, List.dropWhile_cons_of_neg (by simp [hc])]

theorem loosePart_iff {low high n : Nat} {ds r : List Char} {p : Nat × List Char}
    (h : Digits 2 n ds) :
    loosePart? low high (ds ++ r) = some p ↔ (low ≤ n ∧ n ≤ high) ∧ p = (n, r) := by
  rw [loosePart?, trimStart_digits h (by decide), ranged_iff h (by decide)]

theorem literal_iff {c : Char} {cs r : List Char} : literal? c cs = some r ↔ cs = c :: r := by
  cases cs with
  | nil => simp [literal?]
  | cons d cs => simp [literal?]

/-- The text of a year, in front of a dash, as the loose forms read it. -/
def YearText (y : Int) (cs : List Char) : Prop :=
  ∀ r, looseYear? (cs ++ '-' :: r) = some (y, '-' :: r)

/-- A date whose month and day have full width. -/
inductive DateText (d : Date) : List Char → Prop where
  | mk {ys ms ds : List Char} (hy : YearText d.year ys) (hm : Digits 2 d.month ms)
      (hd : Digits 2 d.day ds) : DateText d (ys ++ '-' :: (ms ++ '-' :: ds))

/-- Hours and minutes of full width. -/
inductive MinutesText (h m : Nat) : List Char → Prop where
  | mk {hs ms : List Char} (hh : Digits 2 h hs) (hm : Digits 2 m ms) :
      MinutesText h m (hs ++ ':' :: ms)

theorem yearText_digits {n : Nat} {ds : List Char} (h : Digits 4 n ds) : YearText n ds := by
  intro r
  have hlimit : n ≤ Number.maxNat64 := Nat.le_trans (Nat.le_of_lt h.lt) (by decide)
  have hread := number_digits (r := '-' :: r) h (by decide : 1 ≤ 4) (Nat.le_refl 4) hlimit (.inl rfl)
  rw [looseYear?, trimStart_digits h (by decide)]
  obtain ⟨c, cs, rfl⟩ := List.exists_cons_of_ne_nil (h.ne_nil (by decide))
  have hc := h.digits c (by simp)
  have hminus : c ≠ '-' := by
    rintro rfl
    simp at hc
  have hplus : c ≠ '+' := by
    rintro rfl
    simp at hc
  rw [List.cons_append] at hread ⊢
  split
  next heq => exact absurd (List.cons.inj heq).1 hminus
  next heq => exact absurd (List.cons.inj heq).1 hplus
  next => rw [hread, Option.map_some]

theorem looseDate_iff {d : Date} {cs r : List Char} {p : Date × List Char} (h : DateText d cs) :
    looseDate? (cs ++ r) = some p ↔
      (1 ≤ d.month ∧ d.month ≤ 12) ∧ (1 ≤ d.day ∧ d.day ≤ 31) ∧ p = (d, r) := by
  obtain ⟨hy, hm, hd⟩ := h
  simp only [List.append_assoc, List.cons_append, looseDate?, hy _, bind, Option.bind_some,
    Option.bind_eq_some_iff, literal_iff, List.cons.injEq, loosePart_iff hm, loosePart_iff hd,
    and_assoc, exists_and_left, exists_eq_left, exists_eq_left', true_and, Option.some.injEq,
    @eq_comm _ p]

theorem looseMinutes_iff {h m : Nat} {cs r : List Char} {p : Nat × Nat × List Char}
    (ht : MinutesText h m cs) :
    looseMinutes? (cs ++ r) = some p ↔ h ≤ 23 ∧ m ≤ 59 ∧ p = (h, m, r) := by
  obtain ⟨hh, hm⟩ := ht
  simp only [List.append_assoc, List.cons_append, looseMinutes?, bind, Option.bind_eq_some_iff,
    literal_iff, loosePart_iff hh, loosePart_iff hm, Nat.zero_le, List.cons.injEq,
    and_assoc, exists_and_left, exists_eq_left, exists_eq_left', true_and, Option.some.injEq,
    @eq_comm _ p]

/-- The first nine digits of a fraction, as nanoseconds. -/
def fractionNanos (ds : List Char) : Nat :=
  Nat.ofDigitChars 10 ((ds ++ List.replicate 9 '0').take 9) 0

/-- No fraction, or a point and digits. -/
inductive FractionText : Nat → List Char → Prop where
  | none : FractionText 0 []
  | digits {ds : List Char} (hne : ds ≠ []) (hds : ∀ c ∈ ds, c.isDigit = true) :
      FractionText (fractionNanos ds) ('.' :: ds)

theorem ofDigitChars_zeros (k acc : Nat) :
    Nat.ofDigitChars 10 (List.replicate k '0') acc = acc * 10 ^ k := by
  induction k generalizing acc with
  | zero => simp
  | succ k ih =>
    have hzero : 10 * acc + ('0'.toNat - '0'.toNat) = 10 * acc := by simp
    rw [List.replicate_succ, Nat.ofDigitChars_cons, hzero, ih, Nat.pow_succ']
    ring

theorem fractionNanos_eq (ds : List Char) :
    fractionNanos ds = Nat.ofDigitChars 10 (ds.take 9) 0 * 10 ^ (9 - (ds.take 9).length) := by
  have hlen : min (9 - ds.length) 9 = 9 - (ds.take 9).length := by
    rw [List.length_take]
    omega
  rw [fractionNanos, List.take_append, List.take_replicate, hlen, Nat.ofDigitChars_append,
    ofDigitChars_zeros]

theorem nanos_digits {ds r : List Char} (hne : ds ≠ []) (hds : ∀ c ∈ ds, c.isDigit = true)
    (hr : EndsDigits r) : nanos? (ds ++ r) = some (fractionNanos ds, r) := by
  have hfirst : ∀ c ∈ ds.take 9, c.isDigit = true := fun c hc => hds c (List.mem_of_mem_take hc)
  have hlate : ∀ c ∈ ds.drop 9, c.isDigit = true := fun c hc => hds c (List.mem_of_mem_drop hc)
  have hpos : 0 < ds.length := List.length_pos_iff.mpr hne
  have hlen : (ds.take 9).length = min 9 ds.length := List.length_take
  have hsplit : ds ++ r = ds.take 9 ++ (ds.drop 9 ++ r) := by
    rw [← List.append_assoc, List.take_append_drop]
  have hend : (ds.take 9).length = 9 ∨ EndsDigits (ds.drop 9 ++ r) := by
    by_cases hlong : 9 ≤ ds.length
    · left
      omega
    · right
      rw [List.drop_eq_nil_of_le (by omega)]
      exact hr
  have hrest : (ds.drop 9 ++ r).dropWhile Char.isDigit = r := by
    rw [List.dropWhile_append_of_pos hlate]
    cases r with
    | nil => rfl
    | cons c r => exact List.dropWhile_cons_of_neg (hr c r rfl)
  have hdigits : Digits (ds.take 9).length _ (ds.take 9) := ⟨rfl, hfirst, rfl⟩
  have hlimit : Nat.ofDigitChars 10 (ds.take 9) 0 ≤ Number.maxNat64 := by
    have hlt : _ < 10 ^ 9 := Nat.lt_of_lt_of_le hdigits.lt
      (Nat.pow_le_pow_right (by decide) (by omega))
    exact Nat.le_trans (Nat.le_of_lt hlt) (by decide)
  have hnumber := number_digits hdigits (by omega : 1 ≤ _) (by omega : _ ≤ 9) hlimit hend
  have hcount := takeWhile_digits hfirst (by omega : _ ≤ 9) hend
  rw [hsplit, nanos?, hnumber]
  simp only [hcount, hrest, fractionNanos_eq, Number.tenTo]
  rfl

theorem nanos_split {cs r : List Char} {n : Nat} (h : nanos? cs = some (n, r)) :
    ∃ ds, ds ≠ [] ∧ (∀ c ∈ ds, c.isDigit = true) ∧ cs = ds ++ r ∧ n = fractionNanos ds := by
  have hdigits : ∀ c ∈ cs.takeWhile Char.isDigit, c.isDigit = true :=
    List.all_eq_true.mp List.all_takeWhile
  have hend : EndsDigits (cs.dropWhile Char.isDigit) := by
    intro c t heq
    have hne : cs.dropWhile Char.isDigit ≠ [] := by simp [heq]
    simpa [heq] using List.head_dropWhile_not Char.isDigit hne
  have hne : cs.takeWhile Char.isDigit ≠ [] := by
    intro hnil
    unfold nanos? at h
    split at h
    next m r' hnumber =>
      obtain ⟨w, ds, rfl, hds, hpos, -⟩ := number_split hnumber
      obtain ⟨c, ds, rfl⟩ := List.exists_cons_of_ne_nil (hds.ne_nil hpos)
      have hc := hds.digits c (by simp)
      simp [hc] at hnil
    next => cases h
  have hread := nanos_digits hne hdigits hend
  rw [List.takeWhile_append_dropWhile, h] at hread
  cases hread
  exact ⟨_, hne, hdigits, List.takeWhile_append_dropWhile.symm, rfl⟩

theorem fraction_iff {n : Nat} {fs r : List Char} {p : Nat × List Char} (h : FractionText n fs)
    (hr : EndsWhole r) : fraction? (fs ++ r) = some p ↔ p = (n, r) := by
  rw [@eq_comm _ p]
  cases h with
  | none =>
    rw [List.nil_append, fraction?, Option.some.injEq]
    rintro t rfl
    exact hr _ _ rfl (.inr rfl)
  | digits hne hds =>
    rw [List.cons_append, fraction?, nanos_digits hne hds hr.digits, Option.some.injEq]

theorem fraction_split {n : Nat} {cs r : List Char} (h : fraction? cs = some (n, r)) :
    ∃ fs, cs = fs ++ r ∧ FractionText n fs := by
  unfold fraction? at h
  split at h
  next r' =>
    obtain ⟨ds, hne, hds, rfl, rfl⟩ := nanos_split h
    exact ⟨_, rfl, .digits hne hds⟩
  next =>
    cases h
    exact ⟨[], rfl, .none⟩

theorem fractionNanos_lt {ds : List Char} (hds : ∀ c ∈ ds, c.isDigit = true) :
    fractionNanos ds < nanosPerSecond := by
  have hfirst : Digits 9 (fractionNanos ds) ((ds ++ List.replicate 9 '0').take 9) := by
    refine ⟨by simp, fun c hc => ?_, rfl⟩
    rcases List.mem_append.mp (List.mem_of_mem_take hc) with hc | hc
    · exact hds c hc
    · rw [List.eq_of_mem_replicate hc]
      decide
  exact hfirst.lt

theorem fraction_lt {cs r : List Char} {n : Nat} (h : fraction? cs = some (n, r)) :
    n < nanosPerSecond := by
  obtain ⟨fs, -, hfs⟩ := fraction_split h
  cases hfs with
  | none => decide
  | digits hne hds => exact fractionNanos_lt hds

/-- A date, a character between, and a time to the second with its fraction, all of full width. -/
inductive FullText (d : Date) (sep : Char) (c : Clock) : List Char → Prop where
  | mk {ds ks ss fs : List Char} (hd : DateText d ds) (hk : MinutesText c.hour c.minute ks)
      (hs : Digits 2 c.second ss) (hf : FractionText c.nanos fs) :
      FullText d sep c (ds ++ sep :: (ks ++ ':' :: (ss ++ fs)))

/-- The characters that RFC 3339 allows between date and time. -/
def IsSeparator (c : Char) : Prop :=
  c = 'T' ∨ c = 't' ∨ c = ' '

theorem separator_iff {c : Char} {cs r : List Char} :
    (literal? 'T' (c :: cs) <|> literal? 't' (c :: cs) <|> literal? ' ' (c :: cs)) = some r ↔
      IsSeparator c ∧ r = cs := by
  by_cases hT : c = 'T'
  · simp [literal?, IsSeparator, hT, eq_comm]
  by_cases ht : c = 't'
  · simp [literal?, IsSeparator, ht, eq_comm]
  by_cases hs : c = ' '
  · simp [literal?, IsSeparator, hs, eq_comm]
  · simp [literal?, IsSeparator, hT, ht, hs]

theorem bind_of_eq {α β : Type} {o : Option α} {g : α → Option β} {a : α} {t : β} (h : o = some a) :
    (o >>= g) = some t ↔ g a = some t := by
  rw [h, Option.bind_eq_bind, Option.bind_some]

theorem bind_of_iff {α β : Type} {o : Option α} {g : α → Option β} {P : Prop} {a : α} {t : β}
    (h : ∀ p, o = some p ↔ P ∧ p = a) : (o >>= g) = some t ↔ P ∧ g a = some t := by
  simp only [Option.bind_eq_bind, Option.bind_eq_some_iff, h, and_assoc, exists_and_left,
    exists_eq_left]

theorem number_full {w n : Nat} {ds r : List Char} (h : Digits w n ds) (hw : w ≤ 19) :
    number? w w (ds ++ r) = some (n, r) := by
  have hlt : n < 10 ^ 19 := Nat.lt_of_lt_of_le h.lt (Nat.pow_le_pow_right (by decide) hw)
  have hlimit : n ≤ Number.maxNat64 := by
    rw [Number.maxNat64]
    omega
  exact number_digits h (Nat.le_refl w) (Nat.le_refl w) hlimit (.inl rfl)

theorem ranged_full_iff {high n : Nat} {ds r : List Char} (h : Digits 2 n ds) (p : Nat × List Char) :
    ranged? 2 2 0 high (ds ++ r) = some p ↔ n ≤ high ∧ p = (n, r) := by
  simp only [ranged_iff h (Nat.le_refl 2), Nat.zero_le, true_and]

/-- RFC 3339 reads a text of full width with an offset behind it, if every part is in its range. -/
theorem rfc3339_iff {d : Date} {y : Nat} {sep : Char} {c : Clock} {ys ms ds ks ss fs z : List Char}
    {t : Instant} (hy : Digits 4 y ys) (hdy : d.year = y) (hm : Digits 2 d.month ms)
    (hd : Digits 2 d.day ds) (hsep : IsSeparator sep) (hk : MinutesText c.hour c.minute ks)
    (hs : Digits 2 c.second ss) (hf : FractionText c.nanos fs) (hz : EndsWhole z) :
    rfc3339? (ys ++ '-' :: (ms ++ '-' :: (ds ++ sep :: (ks ++ ':' :: (ss ++ (fs ++ z)))))) =
        some t ↔
      (1 ≤ d.month ∧ d.month ≤ 12) ∧ (1 ≤ d.day ∧ d.day ≤ 31) ∧ c.hour ≤ 23 ∧ c.minute ≤ 59 ∧
        c.second ≤ 60 ∧ ∃ offset, strictOffset? z = some (offset, []) ∧
          instant? d c offset = some t := by
  obtain ⟨hh, hmi⟩ := hk
  obtain ⟨year, month, day⟩ := d
  obtain rfl : year = y := hdy
  simp only [List.append_assoc, List.cons_append]
  unfold rfc3339?
  -- each part in its turn
  refine (bind_of_eq (number_full hy (by decide))).trans ?_
  refine (bind_of_eq (literal_iff.mpr rfl)).trans ?_
  refine (bind_of_iff fun p => ranged_iff hm (Nat.le_refl 2)).trans (and_congr_right fun _ => ?_)
  refine (bind_of_eq (literal_iff.mpr rfl)).trans ?_
  refine (bind_of_iff fun p => ranged_iff hd (Nat.le_refl 2)).trans (and_congr_right fun _ => ?_)
  refine (bind_of_eq (separator_iff.mpr ⟨hsep, rfl⟩)).trans ?_
  refine (bind_of_iff (ranged_full_iff hh)).trans (and_congr_right fun _ => ?_)
  refine (bind_of_eq (literal_iff.mpr rfl)).trans ?_
  refine (bind_of_iff (ranged_full_iff hmi)).trans (and_congr_right fun _ => ?_)
  refine (bind_of_eq (literal_iff.mpr rfl)).trans ?_
  refine (bind_of_iff (ranged_full_iff hs)).trans (and_congr_right fun _ => ?_)
  refine (bind_of_eq ((fraction_iff hf hz).mpr rfl)).trans ?_
  simp only [Option.bind_eq_bind, Option.bind_eq_some_iff, Prod.exists, List.isEmpty_iff,
    Option.ite_none_right_eq_some]
  constructor
  · rintro ⟨offset, rest, hoffset, rfl, ht⟩
    exact ⟨offset, hoffset, ht⟩
  · rintro ⟨offset, hoffset, ht⟩
    exact ⟨offset, [], hoffset, rfl, ht⟩

theorem separator_split {cs r : List Char}
    (h : (literal? 'T' cs <|> literal? 't' cs <|> literal? ' ' cs) = some r) :
    ∃ c, IsSeparator c ∧ cs = c :: r := by
  cases cs with
  | nil => simp [literal?] at h
  | cons c cs =>
    obtain ⟨hc, rfl⟩ := separator_iff.mp h
    exact ⟨c, hc, rfl⟩

/-- What RFC 3339 reads has full width and an offset behind it. -/
theorem rfc3339_split {cs : List Char} {t : Instant} (h : rfc3339? cs = some t) :
    ∃ d sep c front z offset, cs = front ++ z ∧ FullText d sep c front ∧ IsSeparator sep ∧
      (1 ≤ d.month ∧ d.month ≤ 12) ∧ (1 ≤ d.day ∧ d.day ≤ 31) ∧ c.hour ≤ 23 ∧ c.minute ≤ 59 ∧
      strictOffset? z = some (offset, []) := by
  unfold rfc3339? at h
  obtain ⟨⟨y, _⟩, hy, h⟩ := Option.bind_eq_some_iff.mp h
  obtain ⟨_, hdash, h⟩ := Option.bind_eq_some_iff.mp h
  obtain ⟨⟨m, _⟩, hm, h⟩ := Option.bind_eq_some_iff.mp h
  obtain ⟨_, hdash', h⟩ := Option.bind_eq_some_iff.mp h
  obtain ⟨⟨d, _⟩, hd, h⟩ := Option.bind_eq_some_iff.mp h
  obtain ⟨_, hsep, h⟩ := Option.bind_eq_some_iff.mp h
  obtain ⟨⟨hour, _⟩, hh, h⟩ := Option.bind_eq_some_iff.mp h
  obtain ⟨_, hcolon, h⟩ := Option.bind_eq_some_iff.mp h
  obtain ⟨⟨minute, _⟩, hmi, h⟩ := Option.bind_eq_some_iff.mp h
  obtain ⟨_, hcolon', h⟩ := Option.bind_eq_some_iff.mp h
  obtain ⟨⟨second, _⟩, hs, h⟩ := Option.bind_eq_some_iff.mp h
  obtain ⟨⟨nanos, _⟩, hf, h⟩ := Option.bind_eq_some_iff.mp h
  obtain ⟨⟨offset, rest⟩, hz, h⟩ := Option.bind_eq_some_iff.mp h
  obtain ⟨hempty, -⟩ := Option.ite_none_right_eq_some.mp h
  obtain rfl := List.isEmpty_iff.mp hempty
  obtain ⟨w, ys, rfl, hys, hleast, hmost⟩ := number_split hy
  obtain rfl : w = 4 := Nat.le_antisymm hmost hleast
  obtain rfl := literal_iff.mp hdash
  obtain ⟨ms, rfl, hms, hmonth⟩ := ranged_split hm
  obtain rfl := literal_iff.mp hdash'
  obtain ⟨ds, rfl, hds, hday⟩ := ranged_split hd
  obtain ⟨sep, hchar, rfl⟩ := separator_split hsep
  obtain ⟨hs', rfl, hhs, -, hhour⟩ := ranged_split hh
  obtain rfl := literal_iff.mp hcolon
  obtain ⟨mis, rfl, hmis, -, hminute⟩ := ranged_split hmi
  obtain rfl := literal_iff.mp hcolon'
  obtain ⟨ss, rfl, hss, -⟩ := ranged_split hs
  obtain ⟨fs, rfl, hfs⟩ := fraction_split hf
  refine ⟨⟨y, m, d⟩, sep, ⟨hour, minute, second, nanos⟩, _, _, offset, ?_,
    .mk (.mk (yearText_digits hys) hms hds) (.mk hhs hmis) hss hfs, hchar, hmonth, hday, hhour,
    hminute, hz⟩
  simp only [List.append_assoc, List.cons_append]

/-- An offset of whole minutes keeps the leap second at the end of a minute. -/
theorem instant_proper {d : Date} {c : Clock} {offset : Int} {t : Instant}
    (hn : c.nanos < nanosPerSecond) (ho : offset % 60 = 0) (h : instant? d c offset = some t) :
    t.Proper := by
  unfold instant? at h
  by_cases hleap : c.second = 60
  · simp only [hleap, if_true, Option.ite_none_right_eq_some] at h
    obtain ⟨-, h⟩ := h
    cases h
    rw [nanosPerSecond] at hn
    constructor
    · simp only [nanosPerSecond]
      omega
    · intro _
      simp only [secondsPerDay]
      omega
  · simp only [hleap, if_false, Option.ite_none_right_eq_some] at h
    obtain ⟨-, h⟩ := h
    cases h
    rw [nanosPerSecond] at hn
    constructor
    · simp only [nanosPerSecond]
      omega
    · intro hlate
      simp only [nanosPerSecond] at hlate
      omega

theorem signed_minutes (west : Bool) {n : Nat} (h : n % 60 = 0) : Number.signed west n % 60 = 0 := by
  unfold Number.signed
  split <;> omega

theorem strictOffset_minutes {cs r : List Char} {offset : Int}
    (h : strictOffset? cs = some (offset, r)) : offset % 60 = 0 := by
  unfold strictOffset? at h
  split at h
  next => cases h; rfl
  next => cases h; rfl
  next =>
    simp only [bind, Option.bind_eq_some_iff] at h
    obtain ⟨⟨west, r1⟩, -, ⟨hours, r2⟩, -, r3, -, ⟨minutes, r4⟩, -, h⟩ := h
    cases h
    exact signed_minutes west (by omega)

theorem looseOffset_minutes {cs : List Char} {offset : Int}
    (h : looseOffset? cs = some offset) : offset % 60 = 0 := by
  unfold looseOffset? at h
  split at h
  next => cases h; rfl
  next => cases h; rfl
  next =>
    simp only [bind, Option.bind_eq_some_iff] at h
    obtain ⟨⟨west, r1⟩, -, ⟨hours, r2⟩, -, h⟩ := h
    split at h
    next =>
      cases h
      exact signed_minutes west (by omega)
    next =>
      obtain ⟨⟨minutes, r3⟩, -, h⟩ := Option.bind_eq_some_iff.mp h
      split at h
      next =>
        cases h
        exact signed_minutes west (by omega)
      next => cases h

/-- The point is one that a date and a clock show, so many whole minutes from UTC. -/
def Shown (t : Instant) : Prop :=
  ∃ d c offset, c.nanos < nanosPerSecond ∧ offset % 60 = 0 ∧ instant? d c offset = some t

theorem rfc3339_shown {cs : List Char} {t : Instant} (h : rfc3339? cs = some t) : Shown t := by
  rw [rfc3339?] at h
  -- the parts of the date and of the clock
  iterate 11 obtain ⟨_, -, h⟩ := Option.bind_eq_some_iff.mp h
  obtain ⟨⟨n, _⟩, hn, h⟩ := Option.bind_eq_some_iff.mp h
  obtain ⟨⟨offset, _⟩, ho, h⟩ := Option.bind_eq_some_iff.mp h
  exact ⟨_, _, _, fraction_lt hn, strictOffset_minutes ho, (Option.ite_none_right_eq_some.mp h).2⟩

theorem nanos_zero_lt : 0 < nanosPerSecond := by
  decide

theorem minuteWithOffset_shown {sep : Separator} {cs : List Char} {t : Instant}
    (h : minuteWithOffset? sep cs = some t) : Shown t := by
  simp only [minuteWithOffset?, bind, Option.bind_eq_some_iff] at h
  obtain ⟨_, -, _, -, _, -, offset, ho, h⟩ := h
  exact ⟨_, _, _, nanos_zero_lt, looseOffset_minutes ho, h⟩

theorem secondInUtc_shown {sep : Separator} {cs : List Char} {t : Instant}
    (h : secondInUtc? sep cs = some t) : Shown t := by
  simp only [secondInUtc?, bind, Option.bind_eq_some_iff] at h
  obtain ⟨_, -, _, -, _, -, _, -, _, -, ⟨n, _⟩, hn, h⟩ := h
  exact ⟨_, _, _, fraction_lt hn, rfl, (Option.ite_none_right_eq_some.mp h).2⟩

theorem minuteInUtc_shown {sep : Separator} {cs : List Char} {t : Instant}
    (h : minuteInUtc? sep cs = some t) : Shown t := by
  simp only [minuteInUtc?, bind, Option.bind_eq_some_iff] at h
  obtain ⟨_, -, _, -, _, -, h⟩ := h
  exact ⟨_, _, _, nanos_zero_lt, rfl, (Option.ite_none_right_eq_some.mp h).2⟩

theorem midnight_shown {cs : List Char} {t : Instant} (h : midnight? cs = some t) : Shown t := by
  simp only [midnight?, bind, Option.bind_eq_some_iff] at h
  obtain ⟨_, -, h⟩ := h
  exact ⟨_, _, _, nanos_zero_lt, rfl, (Option.ite_none_right_eq_some.mp h).2⟩

theorem parse_shown {cs : List Char} {t : Instant} (h : parse? cs = some t) : Shown t := by
  obtain ⟨form, hform, h⟩ := List.exists_of_findSome?_eq_some h
  simp only [forms, List.mem_cons, List.not_mem_nil, or_false] at hform
  rcases hform with rfl | rfl | rfl | rfl | rfl | rfl | rfl | rfl
  · exact rfc3339_shown h
  · exact minuteWithOffset_shown h
  · exact minuteWithOffset_shown h
  · exact secondInUtc_shown h
  · exact secondInUtc_shown h
  · exact minuteInUtc_shown h
  · exact minuteInUtc_shown h
  · exact midnight_shown h

/-- Every date that a literal denotes is one whose text tells it. -/
theorem parse_proper {cs : List Char} {t : Instant} (h : parse? cs = some t) : t.Proper := by
  obtain ⟨d, c, offset, hnanos, hminutes, ht⟩ := parse_shown h
  exact instant_proper hnanos hminutes ht

end ResourceQuery.Time
