import ResourceQuery.Number.Decimal
import ResourceQuery.Proofs.BinaryRange
import ResourceQuery.Proofs.IntegerText

namespace ResourceQuery.Number

/-- Digits with a point among them or without, one on one side of it at least. -/
inductive MantissaText : ℚ → List Char → Prop where
  | whole {n : Nat} {ds : List Char} (h : DigitText n ds) : MantissaText n ds
  | point {whole fraction : List Char} (hwhole : ∀ c ∈ whole, c.isDigit = true)
      (hfraction : ∀ c ∈ fraction, c.isDigit = true) (hsome : ¬(whole = [] ∧ fraction = [])) :
      MantissaText (Nat.ofDigitChars 10 whole 0 +
        Nat.ofDigitChars 10 fraction 0 / 10 ^ fraction.length) (whole ++ '.' :: fraction)

/-- A power of ten, or nothing where it is one. -/
inductive ExponentText : Int → List Char → Prop where
  | absent : ExponentText 0 []
  | written {mark : Char} {e : Int} {cs : List Char} (hmark : mark = 'e' ∨ mark = 'E')
      (h : SignedText e cs) : ExponentText e (mark :: cs)

/-- A decimal number without a sign. -/
inductive UnsignedText : ℚ → List Char → Prop where
  | mk {m : ℚ} {e : Int} {ms es : List Char} (hm : MantissaText m ms) (he : ExponentText e es) :
      UnsignedText (m * 10 ^ e) (ms ++ es)

/-- A decimal number, and a sign in front of it or none. -/
inductive DecimalText : ℚ → List Char → Prop where
  | plain {q : ℚ} {cs : List Char} (h : UnsignedText q cs) : DecimalText q cs
  | plus {q : ℚ} {cs : List Char} (h : UnsignedText q cs) : DecimalText q ('+' :: cs)
  | minus {q : ℚ} {cs : List Char} (h : UnsignedText q cs) : DecimalText (-q) ('-' :: cs)

/-- A decimal number within the range of finite numbers, with blanks around it or without. -/
inductive FloatText (q : ℚ) : List Char → Prop where
  | mk {before cs after : List Char} (hbefore : ∀ c ∈ before, Text.isBlank c = true)
      (hafter : ∀ c ∈ after, Text.isBlank c = true) (h : DecimalText q cs)
      (inRange : |q| < 2 ^ 1024 - 2 ^ 970) : FloatText q (before ++ (cs ++ after))

/-- A word for what is no finite number, in any case of letters. -/
inductive NonFiniteText : List Char → Prop where
  | mk {before sign word after : List Char} (hbefore : ∀ c ∈ before, Text.isBlank c = true)
      (hafter : ∀ c ∈ after, Text.isBlank c = true) (hsign : sign ∈ [[], ['+'], ['-']])
      (hword : String.ofList (Text.lowerAscii word) ∈ ["nan", "inf", "infinity"]) :
      NonFiniteText (before ++ (sign ++ word ++ after))

namespace Decimal

theorem digitsValue_append (whole fraction : List Char) :
    (digitsValue (whole ++ fraction) : ℚ) / 10 ^ fraction.length =
      Nat.ofDigitChars 10 whole 0 + Nat.ofDigitChars 10 fraction 0 / 10 ^ fraction.length := by
  have hvalue : digitsValue (whole ++ fraction) =
      10 ^ fraction.length * Nat.ofDigitChars 10 whole 0 + Nat.ofDigitChars 10 fraction 0 := by
    calc digitsValue (whole ++ fraction) = Nat.ofDigitChars 10 (whole ++ fraction) 0 := rfl
      _ = Nat.ofDigitChars 10 fraction (Nat.ofDigitChars 10 whole 0) := Nat.ofDigitChars_append 0
      _ = _ := Nat.ofDigitChars_eq_ofDigitChars_zero
  rw [hvalue]
  push_cast
  field_simp

/-- What is taken as a mantissa is one, up to the text after it. -/
theorem mantissaText_of_take {cs whole fraction r : List Char}
    (h : takeMantissa cs = (whole, fraction, r)) (hsome : ¬(whole = [] ∧ fraction = [])) :
    ∃ ms, cs = ms ++ r ∧
      MantissaText (digitsValue (whole ++ fraction) / 10 ^ fraction.length) ms := by
  have hdigits : ∀ {l : List Char}, ∀ c ∈ l.takeWhile Char.isDigit, c.isDigit = true :=
    List.all_eq_true.mp List.all_takeWhile
  have hcs : cs.takeWhile Char.isDigit ++ cs.dropWhile Char.isDigit = cs :=
    List.takeWhile_append_dropWhile
  unfold takeMantissa at h
  dsimp only at h
  split at h
  next t hrest =>
    cases h
    refine ⟨cs.takeWhile Char.isDigit ++ '.' :: t.takeWhile Char.isDigit, ?_, ?_⟩
    · rw [List.append_assoc, List.cons_append, List.takeWhile_append_dropWhile, ← hrest, hcs]
    · rw [digitsValue_append]
      exact .point hdigits hdigits hsome
  next =>
    cases h
    refine ⟨cs.takeWhile Char.isDigit, hcs.symm, ?_⟩
    have hwhole : MantissaText (digitsValue (cs.takeWhile Char.isDigit) : Nat)
        (cs.takeWhile Char.isDigit) :=
      .whole ⟨fun hnil => hsome ⟨hnil, rfl⟩, hdigits, rfl⟩
    simpa using hwhole

/-- A mantissa is taken whole before an exponent. -/
theorem take_of_mantissaText {m : ℚ} {e : Int} {ms es : List Char} (hm : MantissaText m ms)
    (he : ExponentText e es) : ∃ whole fraction, takeMantissa (ms ++ es) = (whole, fraction, es) ∧
      ¬(whole = [] ∧ fraction = []) ∧ m = digitsValue (whole ++ fraction) / 10 ^ fraction.length := by
  have hstops : es.takeWhile Char.isDigit = [] ∧ es.dropWhile Char.isDigit = es ∧
      ∀ r, es ≠ '.' :: r := by
    cases he with
    | absent => simp
    | written hmark h =>
      rcases hmark with rfl | rfl <;> simp [List.takeWhile, List.dropWhile, Char.isDigit]
  obtain ⟨hnone, hall, hpoint⟩ := hstops
  cases hm with
  | whole h =>
    refine ⟨ms, [], ?_, by simp [h.nonempty], ?_⟩
    · unfold takeMantissa
      rw [List.takeWhile_append_of_pos h.digits, List.dropWhile_append_of_pos h.digits, hnone, hall,
        List.append_nil]
      split
      next => exact absurd rfl (hpoint _)
      next => rfl
    · simp [← h.value, digitsValue, Nat.ofDigitChars, digitValue]
  | @point whole fraction hwhole hfraction hsome =>
    refine ⟨whole, fraction, ?_, hsome, (digitsValue_append whole fraction).symm⟩
    unfold takeMantissa
    have hdot : ¬ '.'.isDigit = true := by decide
    rw [List.append_assoc, List.cons_append, List.takeWhile_append_of_pos hwhole,
      List.dropWhile_append_of_pos hwhole, List.takeWhile_cons_of_neg hdot,
      List.dropWhile_cons_of_neg hdot, List.append_nil]
    change (whole, (fraction ++ es).takeWhile Char.isDigit,
      (fraction ++ es).dropWhile Char.isDigit) = _
    rw [List.takeWhile_append_of_pos hfraction, List.dropWhile_append_of_pos hfraction, hnone, hall,
      List.append_nil]

theorem exponent_iff {cs : List Char} {e : Int} : exponent? cs = some e ↔ ExponentText e cs := by
  cases cs with
  | nil =>
    constructor
    · intro h
      cases h
      exact .absent
    · intro h
      cases h
      rfl
  | cons mark r =>
    simp only [exponent?, Option.ite_none_right_eq_some, isDigits_iff, Option.some.injEq]
    constructor
    · rintro ⟨hmark, ⟨hne, hdigits⟩, rfl⟩
      exact .written hmark (signedText_iff.mpr ⟨_, ⟨hne, hdigits, rfl⟩, rfl⟩)
    · intro h
      cases h with
      | written hmark h =>
        obtain ⟨m, ⟨hne, hdigits, rfl⟩, rfl⟩ := signedText_iff.mp h
        exact ⟨hmark, ⟨hne, hdigits⟩, rfl⟩

end Decimal

theorem UnsignedText.exists_take {q : ℚ} {cs : List Char} (h : UnsignedText q cs) :
    ∃ whole fraction r e, Decimal.takeMantissa cs = (whole, fraction, r) ∧
      ¬(whole = [] ∧ fraction = []) ∧ Decimal.exponent? r = some e ∧
        q = digitsValue (whole ++ fraction) / 10 ^ fraction.length * 10 ^ e := by
  obtain ⟨hm, he⟩ := h
  obtain ⟨whole, fraction, htake, hsome, rfl⟩ := Decimal.take_of_mantissaText hm he
  exact ⟨whole, fraction, _, _, htake, hsome, Decimal.exponent_iff.mpr he, rfl⟩

theorem UnsignedText.head {q : ℚ} {cs : List Char} (h : UnsignedText q cs) :
    ∃ c r, cs = c :: r ∧ (c.isDigit = true ∨ c = '.') := by
  obtain ⟨hm, -⟩ := h
  cases hm with
  | whole h =>
    obtain ⟨c, t, rfl⟩ := List.exists_cons_of_ne_nil h.nonempty
    exact ⟨c, _, List.cons_append, .inl (h.digits c (by simp))⟩
  | @point whole fraction hwhole _ _ =>
    cases whole with
    | nil => exact ⟨'.', _, rfl, .inr rfl⟩
    | cons c t => exact ⟨c, _, rfl, .inl (hwhole c (by simp))⟩

theorem UnsignedText.takeSign {q : ℚ} {cs : List Char} (h : UnsignedText q cs) :
    takeSign cs = (false, cs) := by
  obtain ⟨c, r, rfl, hc⟩ := h.head
  apply takeSign_unsigned <;> (rintro rfl; exact absurd hc (by decide))

theorem decimalText_iff {q : ℚ} {cs : List Char} :
    DecimalText q cs ↔ ∃ m, UnsignedText m (takeSign cs).2 ∧
      q = if (takeSign cs).1 then -m else m := by
  constructor
  · intro h
    cases h with
    | plain h =>
      rw [h.takeSign]
      exact ⟨_, h, rfl⟩
    | plus h => exact ⟨_, h, rfl⟩
    | minus h => exact ⟨_, h, rfl⟩
  · rintro ⟨m, h, rfl⟩
    unfold Number.takeSign at h ⊢
    split at h
    next => exact .minus h
    next => exact .plus h
    next => exact .plain h

namespace Decimal

def toRat (d : Decimal) : ℚ :=
  if d.negative then -(d.digits * 10 ^ d.exponent) else d.digits * 10 ^ d.exponent

theorem abs_toRat (d : Decimal) : |d.toRat| = d.digits * 10 ^ d.exponent := by
  have hnonneg : (0 : ℚ) ≤ d.digits * 10 ^ d.exponent := by positivity
  unfold toRat
  split
  next => rw [abs_neg, abs_of_nonneg hnonneg]
  next => rw [abs_of_nonneg hnonneg]

theorem toBinary64_isFinite_iff (d : Decimal) :
    d.toBinary64.isFinite = true ↔ |d.toRat| < 2 ^ 1024 - 2 ^ 970 := by
  rw [abs_toRat]
  exact Binary64.ofDecimal_isFinite_iff d.negative d.digits d.exponent

theorem scaled_exponent (n len : Nat) (e : Int) :
    (n : ℚ) / 10 ^ len * 10 ^ e = n * 10 ^ (e - len) := by
  rw [zpow_sub₀ (by norm_num), zpow_natCast]
  ring

/-- The decimal numbers are read, each as its value. -/
theorem parse_iff {q : ℚ} {cs : List Char} :
    DecimalText q cs ↔ ∃ d, parse? cs = some d ∧ d.toRat = q := by
  rw [decimalText_iff]
  generalize hsigned : takeSign cs = signed
  obtain ⟨negative, r⟩ := signed
  constructor
  · rintro ⟨m, h, rfl⟩
    obtain ⟨whole, fraction, t, e, htake, hsome, he, rfl⟩ := h.exists_take
    refine ⟨⟨negative, digitsValue (whole ++ fraction), e - fraction.length⟩, ?_, ?_⟩
    · simp [parse?, hsigned, htake, hsome, he]
    · rw [scaled_exponent]
      rfl
  · rintro ⟨d, hparse, rfl⟩
    generalize htake : takeMantissa r = taken at *
    obtain ⟨whole, fraction, t⟩ := taken
    simp only [parse?, hsigned, htake, Option.ite_none_left_eq_some, Bool.and_eq_true,
      List.isEmpty_iff, Option.map_eq_some_iff] at hparse
    obtain ⟨hsome, e, he, rfl⟩ := hparse
    obtain ⟨ms, rfl, hm⟩ := mantissaText_of_take htake hsome
    refine ⟨_, .mk hm (exponent_iff.mp he), ?_⟩
    rw [scaled_exponent]
    rfl

end Decimal

theorem MantissaText.noBlank {m : ℚ} {cs : List Char} (h : MantissaText m cs) :
    ∀ c ∈ cs, Text.isBlank c = false := by
  cases h with
  | whole h => exact h.noBlank
  | point hwhole hfraction hsome =>
    refine List.forall_mem_append.mpr ⟨?_, List.forall_mem_cons.mpr ⟨rfl, ?_⟩⟩
    · exact fun c hc => Text.isBlank_of_isDigit (hwhole c hc)
    · exact fun c hc => Text.isBlank_of_isDigit (hfraction c hc)

theorem ExponentText.noBlank {e : Int} {cs : List Char} (h : ExponentText e cs) :
    ∀ c ∈ cs, Text.isBlank c = false := by
  cases h with
  | absent => simp
  | written hmark h =>
    refine List.forall_mem_cons.mpr ⟨?_, h.noBlank⟩
    rcases hmark with rfl | rfl <;> rfl

theorem UnsignedText.noBlank {q : ℚ} {cs : List Char} (h : UnsignedText q cs) :
    ∀ c ∈ cs, Text.isBlank c = false := by
  obtain ⟨hm, he⟩ := h
  exact List.forall_mem_append.mpr ⟨hm.noBlank, he.noBlank⟩

theorem DecimalText.noBlank {q : ℚ} {cs : List Char} (h : DecimalText q cs) :
    ∀ c ∈ cs, Text.isBlank c = false := by
  cases h with
  | plain h => exact h.noBlank
  | plus h => exact List.forall_mem_cons.mpr ⟨rfl, h.noBlank⟩
  | minus h => exact List.forall_mem_cons.mpr ⟨rfl, h.noBlank⟩

theorem MantissaText.exists_digit {m : ℚ} {cs : List Char} (h : MantissaText m cs) :
    ∃ c ∈ cs, c.isDigit = true := by
  cases h with
  | whole h =>
    obtain ⟨c, hc⟩ := List.exists_mem_of_ne_nil _ h.nonempty
    exact ⟨c, hc, h.digits c hc⟩
  | @point whole fraction hwhole hfraction hsome =>
    by_cases hnil : whole = []
    · obtain ⟨c, hc⟩ := List.exists_mem_of_ne_nil _ fun hf => hsome ⟨hnil, hf⟩
      exact ⟨c, by simp [hc], hfraction c hc⟩
    · obtain ⟨c, hc⟩ := List.exists_mem_of_ne_nil _ hnil
      exact ⟨c, by simp [hc], hwhole c hc⟩

theorem UnsignedText.exists_digit {q : ℚ} {cs : List Char} (h : UnsignedText q cs) :
    ∃ c ∈ cs, c.isDigit = true := by
  obtain ⟨hm, -⟩ := h
  obtain ⟨c, hc, hdigit⟩ := hm.exists_digit
  exact ⟨c, List.mem_append_left _ hc, hdigit⟩

theorem DecimalText.exists_digit {q : ℚ} {cs : List Char} (h : DecimalText q cs) :
    ∃ c ∈ cs, c.isDigit = true := by
  cases h with
  | plain h => exact h.exists_digit
  | plus h | minus h =>
    obtain ⟨c, hc, hdigit⟩ := h.exists_digit
    exact ⟨c, List.mem_cons_of_mem _ hc, hdigit⟩

section
variable {sign word : List Char}

theorem word_letters (hword : String.ofList (Text.lowerAscii word) ∈ ["nan", "inf", "infinity"]) :
    word ≠ [] ∧ ∀ c ∈ word, c.isAlpha = true := by
  have hletters : ∀ s ∈ ["nan", "inf", "infinity"],
      s.toList ≠ [] ∧ ∀ c ∈ s.toList, c.isAlpha = true := by
    simp [Char.isAlpha, Char.isUpper, Char.isLower]
  obtain ⟨hne, halpha⟩ := hletters _ hword
  rw [String.toList_ofList] at hne halpha
  constructor
  · rintro rfl
    exact hne rfl
  · intro c hc
    rw [← Char.isAlpha_toLower_eq_isAlpha]
    exact halpha _ (List.mem_map_of_mem hc)

theorem takeSign_sign (hsign : sign ∈ [[], ['+'], ['-']]) (hword : ∀ c ∈ word, c.isAlpha = true) :
    (takeSign (sign ++ word)).2 = word := by
  simp only [List.mem_cons, List.not_mem_nil, or_false] at hsign
  rcases hsign with rfl | rfl | rfl
  · cases word with
    | nil => rfl
    | cons c r =>
      have hc : c.isAlpha = true := hword c (by simp)
      rw [List.nil_append]
      rw [takeSign_unsigned] <;> (rintro rfl; exact absurd hc (by decide))
  · rfl
  · rfl

theorem signedWord_chars (hsign : sign ∈ [[], ['+'], ['-']]) (hword : ∀ c ∈ word, c.isAlpha = true) :
    ∀ c ∈ sign ++ word, Text.isBlank c = false ∧ c.isDigit = false := by
  refine List.forall_mem_append.mpr ⟨?_, ?_⟩
  · have hsigns : ∀ s ∈ [[], ['+'], ['-']], ∀ c ∈ s, Text.isBlank c = false ∧ c.isDigit = false := by
      simp [Text.isBlank, Char.isDigit]
    exact hsigns sign hsign
  · intro c hc
    have halpha := hword c hc
    refine ⟨Text.isBlank_of_isAlpha halpha, ?_⟩
    grind [Char.isAlpha, Char.isUpper, Char.isLower, Char.isDigit]

/-- A word is read as what is no finite number. -/
theorem parseExtended_word (hsign : sign ∈ [[], ['+'], ['-']])
    (hword : String.ofList (Text.lowerAscii word) ∈ ["nan", "inf", "infinity"]) :
    ∃ x, parseExtended? (sign ++ word) = some x ∧ x.isFinite = false := by
  obtain ⟨-, halpha⟩ := word_letters hword
  have hnone : Decimal.parse? (sign ++ word) = none := by
    rw [Option.eq_none_iff_forall_not_mem]
    intro d hd
    obtain ⟨c, hc, hdigit⟩ := (Decimal.parse_iff.mpr ⟨d, hd, rfl⟩).exists_digit
    rw [(signedWord_chars hsign halpha c hc).2] at hdigit
    cases hdigit
  have hrest := takeSign_sign hsign halpha
  simp only [List.mem_cons, List.not_mem_nil, or_false] at hword
  simp only [parseExtended?, hnone, hrest]
  by_cases hnan : String.ofList (Text.lowerAscii word) = "nan"
  · exact ⟨.nan, if_pos hnan, rfl⟩
  · exact ⟨.infinite _, by rw [if_neg hnan, if_pos (hword.resolve_left hnan)], rfl⟩

end

theorem parseExtended_of_parse {cs : List Char} {d : Decimal} (h : Decimal.parse? cs = some d) :
    parseExtended? cs = some d.toBinary64 := by
  rw [parseExtended?, h]

/-- Beside the decimal numbers only words are read. -/
theorem isFinite_of_word {cs : List Char} {x : Binary64} (hcs : Decimal.parse? cs = none)
    (hx : parseExtended? cs = some x) : x.isFinite = false := by
  simp only [parseExtended?, hcs] at hx
  split at hx
  next =>
    cases hx
    rfl
  next =>
    split at hx
    next =>
      cases hx
      rfl
    next => cases hx

theorem parseFloat_eq_some_iff {cs : List Char} {x : Binary64} :
    parseFloat? cs = some x ↔
      ∃ d, Decimal.parse? (Text.trim cs) = some d ∧ d.toBinary64 = x ∧ x.isFinite = true := by
  rw [parseFloat?, Option.filter_eq_some_iff]
  constructor
  · rintro ⟨hx, hfinite⟩
    cases hd : Decimal.parse? (Text.trim cs) with
    | none =>
      rw [isFinite_of_word hd hx] at hfinite
      cases hfinite
    | some d =>
      rw [parseExtended_of_parse hd, Option.some.injEq] at hx
      exact ⟨d, rfl, hx, hfinite⟩
  · rintro ⟨d, hd, rfl, hfinite⟩
    exact ⟨parseExtended_of_parse hd, hfinite⟩

theorem DecimalText.unique {q p : ℚ} {cs : List Char} (hq : DecimalText q cs)
    (hp : DecimalText p cs) : q = p := by
  obtain ⟨d, hd, rfl⟩ := Decimal.parse_iff.mp hq
  obtain ⟨e, he, rfl⟩ := Decimal.parse_iff.mp hp
  rw [Option.some.inj (hd.symm.trans he)]

theorem floatText_trim_iff {q : ℚ} {cs : List Char} :
    FloatText q cs ↔ DecimalText q (Text.trim cs) ∧ |q| < 2 ^ 1024 - 2 ^ 970 := by
  constructor
  · rintro ⟨hbefore, hafter, h, hrange⟩
    obtain ⟨c, hc, -⟩ := h.exists_digit
    rw [Text.trim_around_plain hbefore hafter (List.ne_nil_of_mem hc) h.noBlank]
    exact ⟨h, hrange⟩
  · rintro ⟨h, hrange⟩
    obtain ⟨before, after, hcs, hbefore, hafter⟩ := Text.trim_split cs
    rw [hcs]
    exact .mk hbefore hafter h hrange

theorem parseFloat_iff {cs : List Char} :
    (∃ x, parseFloat? cs = some x) ↔ ∃ q, FloatText q cs := by
  simp only [parseFloat_eq_some_iff, floatText_trim_iff, Decimal.parse_iff]
  constructor
  · rintro ⟨x, d, hd, rfl, hfinite⟩
    exact ⟨d.toRat, ⟨d, hd, rfl⟩, d.toBinary64_isFinite_iff.mp hfinite⟩
  · rintro ⟨q, ⟨d, hd, rfl⟩, hrange⟩
    exact ⟨d.toBinary64, d, hd, rfl, d.toBinary64_isFinite_iff.mpr hrange⟩

theorem NonFiniteText.parseFloat {cs : List Char} (h : NonFiniteText cs) :
    (∃ x, parseExtended? (Text.trim cs) = some x ∧ x.isFinite = false) ∧ parseFloat? cs = none := by
  obtain ⟨hbefore, hafter, hsign, hword⟩ := h
  obtain ⟨hne, halpha⟩ := word_letters hword
  have hchars := signedWord_chars hsign halpha
  obtain ⟨x, hx, hfinite⟩ := parseExtended_word hsign hword
  rw [parseFloat?, Text.trim_around_plain hbefore hafter (by simp [hne]) fun c hc => (hchars c hc).1,
    hx]
  exact ⟨⟨x, rfl, hfinite⟩, by rw [Option.filter_some, if_neg (by simp [hfinite])]⟩

theorem SignedText.decimalText {n : Int} {cs : List Char} (h : SignedText n cs) :
    DecimalText n cs := by
  have hplain : ∀ {m : Nat} {ds : List Char}, DigitText m ds → UnsignedText m ds := by
    intro m ds h
    have hunsigned := UnsignedText.mk (.whole h) .absent
    simpa using hunsigned
  cases h with
  | plain h => exact .plain (hplain h)
  | plus h => exact .plus (hplain h)
  | minus h =>
    rw [Int.cast_neg]
    exact .minus (hplain h)

/-- The digits of a natural number are read if it lies below the range. -/
theorem parseFloat_decimalDigits_iff (n : Nat) :
    (∃ x, parseFloat? (decimalDigits n) = some x) ↔ (n : ℚ) < 2 ^ 1024 - 2 ^ 970 := by
  have hdigits := digitText_decimalDigits n
  have hdecimal : DecimalText n (decimalDigits n) := (SignedText.plain hdigits).decimalText
  have htrim : Text.trim (decimalDigits n) = decimalDigits n := by
    have haround := @Text.trim_around_plain [] _ [] (by simp) (by simp) hdigits.nonempty
      hdigits.noBlank
    simpa using haround
  have habs : |(n : ℚ)| = n := abs_of_nonneg n.cast_nonneg
  simp only [parseFloat_iff, floatText_trim_iff, htrim]
  constructor
  · rintro ⟨q, hq, hrange⟩
    rw [hq.unique hdecimal, habs] at hrange
    exact hrange
  · intro hrange
    exact ⟨n, hdecimal, habs.symm ▸ hrange⟩

/-- An integer of 64 bits is a decimal number far within the range. -/
theorem IntegerText.floatText {n : Int} {cs : List Char} (h : IntegerText n cs) :
    FloatText n cs := by
  obtain ⟨hbefore, hafter, h, least, most⟩ := h
  refine .mk hbefore hafter h.decimalText ?_
  have hsize : |(n : ℚ)| ≤ 2 ^ 63 := by
    rw [abs_le]
    constructor
    · exact_mod_cast least
    · exact_mod_cast most.trans (by norm_num)
  calc |(n : ℚ)| ≤ 2 ^ 63 := hsize
    _ ≤ 2 ^ 1023 := pow_le_pow_right₀ one_le_two (by norm_num)
    _ < 2 ^ 1024 - 2 ^ 970 := Binary64.two_pow_lt_range

/-- A text is read as a floating point number exactly if it is a decimal number between blanks, its
value below the range where rounding leads to infinity; what is read is finite. The words for an
infinite number and for what is no number are not read, and whatever is read as an integer is read
as a floating point number too. -/
theorem finite_decimals_read :
    (∀ cs, (∃ x, parseFloat? cs = some x) ↔ ∃ q, FloatText q cs) ∧
    (∀ cs x, parseFloat? cs = some x → x.isFinite = true) ∧
    (∀ cs, NonFiniteText cs → parseFloat? cs = none) ∧
    ∀ cs n, parseInteger? cs = some n → ∃ x, parseFloat? cs = some x := by
  refine ⟨fun _ => parseFloat_iff, ?_, fun _ h => h.parseFloat.2, ?_⟩
  · intro cs x hx
    exact (Option.filter_eq_some_iff.mp hx).2
  · intro cs n hn
    exact parseFloat_iff.mpr ⟨n, (parseInteger_iff.mp hn).floatText⟩

theorem gap_cast {a b : Nat} (h : b < a) : ((2 ^ a - 2 ^ b : Nat) : ℚ) = 2 ^ a - 2 ^ b ∧
    ((2 ^ a - 2 ^ b - 1 : Nat) : ℚ) < 2 ^ a - 2 ^ b := by
  have hlt : 2 ^ b < 2 ^ a := Nat.pow_lt_pow_right one_lt_two h
  have hcast : ((2 ^ a - 2 ^ b : Nat) : ℚ) = 2 ^ a - 2 ^ b := by
    rw [Nat.cast_sub hlt.le, Nat.cast_pow, Nat.cast_pow, Nat.cast_ofNat]
  refine ⟨hcast, ?_⟩
  rw [← hcast, Nat.cast_lt]
  exact Nat.sub_one_lt (Nat.sub_ne_zero_of_lt hlt)

/-- The last natural number below the range is read and the next one is not; no infinity is read,
and the greatest integer is. -/
theorem rangeEdges_read :
    (∃ x, parseFloat? (decimalDigits (2 ^ 1024 - 2 ^ 970 - 1)) = some x ∧ x.isFinite = true) ∧
      (¬ ∃ q, FloatText q (decimalDigits (2 ^ 1024 - 2 ^ 970))) ∧
      NonFiniteText "\u3000-iNfinity\n".toList ∧
      parseFloat? "\u3000-iNfinity\n".toList = none ∧
      parseInteger? " +09223372036854775807".toList = some 9223372036854775807 ∧
      ∃ x, parseFloat? " +09223372036854775807".toList = some x := by
  obtain ⟨hread, hfinite, hword, hinteger⟩ := finite_decimals_read
  have hlimit := (gap_cast (by decide : 970 < 1024)).1
  have hbelow := (gap_cast (by decide : 970 < 1024)).2
  obtain ⟨x, hx⟩ := (parseFloat_decimalDigits_iff _).mpr hbelow
  have hover : ¬ ∃ q, FloatText q (decimalDigits (2 ^ 1024 - 2 ^ 970)) := by
    rw [← hread, parseFloat_decimalDigits_iff, hlimit]
    exact lt_irrefl _
  have hinfinity : NonFiniteText "\u3000-iNfinity\n".toList := by
    have htext : "\u3000-iNfinity\n".toList =
        ['\u3000'] ++ (['-'] ++ "iNfinity".toList ++ ['\n']) := by simp
    rw [htext]
    exact .mk (by simp [Text.isBlank]) (by simp [Text.isBlank]) (by simp) (by decide)
  have hgreatest : parseInteger? " +09223372036854775807".toList = some 9223372036854775807 := by
    decide
  exact ⟨⟨x, hx, hfinite _ _ hx⟩, hover, hinfinity, hword _ hinfinity, hgreatest,
    hinteger _ _ hgreatest⟩

end ResourceQuery.Number
