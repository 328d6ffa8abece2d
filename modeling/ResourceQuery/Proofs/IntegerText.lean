import ResourceQuery.Proofs.DigitsAndBlanks
import ResourceQuery.Proofs.FieldRouting
import ResourceQuery.Proofs.JsonWriting

namespace ResourceQuery

namespace Number

/-- Decimal digits, one at least, that write the number. -/
structure DigitText (n : Nat) (ds : List Char) : Prop where
  nonempty : ds ≠ []
  digits : ∀ c ∈ ds, c.isDigit = true
  value : Nat.ofDigitChars 10 ds 0 = n

/-- An optional sign, and digits behind it. -/
inductive SignedText : Int → List Char → Prop where
  | plain {n : Nat} {ds : List Char} (h : DigitText n ds) : SignedText n ds
  | plus {n : Nat} {ds : List Char} (h : DigitText n ds) : SignedText n ('+' :: ds)
  | minus {n : Nat} {ds : List Char} (h : DigitText n ds) : SignedText (-n) ('-' :: ds)

/-- An integer of 64 bits, with blanks around it or without. -/
inductive IntegerText (n : Int) : List Char → Prop where
  | mk {before cs after : List Char} (hbefore : ∀ c ∈ before, Text.isBlank c = true)
      (hafter : ∀ c ∈ after, Text.isBlank c = true) (h : SignedText n cs)
      (least : -2 ^ 63 ≤ n) (most : n ≤ 2 ^ 63 - 1) : IntegerText n (before ++ (cs ++ after))

theorem isDigits_iff {ds : List Char} :
    isDigits ds = true ↔ ds ≠ [] ∧ ∀ c ∈ ds, c.isDigit = true := by
  simp [isDigits]

theorem takeSign_unsigned {c : Char} {r : List Char} (hminus : c ≠ '-') (hplus : c ≠ '+') :
    takeSign (c :: r) = (false, c :: r) := by
  rw [takeSign]
  · rintro t heq
    cases heq
    exact hminus rfl
  · rintro t heq
    cases heq
    exact hplus rfl

theorem DigitText.takeSign {n : Nat} {ds : List Char} (h : DigitText n ds) :
    takeSign ds = (false, ds) := by
  obtain ⟨c, r, rfl⟩ := List.exists_cons_of_ne_nil h.nonempty
  have hc : c.isDigit = true := h.digits c (by simp)
  apply takeSign_unsigned <;> (rintro rfl; exact absurd hc (by decide))

/-- What stands behind the sign is digits, and the sign tells on which side of zero the number is. -/
theorem signedText_iff {n : Int} {cs : List Char} :
    SignedText n cs ↔ ∃ m, DigitText m (takeSign cs).2 ∧ n = signed (takeSign cs).1 m := by
  constructor
  · intro h
    cases h with
    | plain h =>
      rw [h.takeSign]
      exact ⟨_, h, rfl⟩
    | plus h => exact ⟨_, h, rfl⟩
    | minus h => exact ⟨_, h, rfl⟩
  · rintro ⟨m, h, rfl⟩
    unfold Number.takeSign at h ⊢
    split at h
    next => exact .minus h
    next => exact .plus h
    next => exact .plain h

/-- The text without the blanks around it is a sign and digits, and its number fits 64 bits. -/
theorem parseInteger_trim_iff {n : Int} {cs : List Char} :
    parseInteger? cs = some n ↔
      SignedText n (Text.trim cs) ∧ -2 ^ 63 ≤ n ∧ n ≤ 2 ^ 63 - 1 := by
  have hleast : minInt64 = -2 ^ 63 := rfl
  have hmost : maxInt64 = 2 ^ 63 - 1 := rfl
  have hlimit : maxNat64 = 2 ^ 64 - 1 := rfl
  simp only [parseInteger?, signedText_iff, Option.ite_none_right_eq_some, isDigits_iff,
    digitsUpTo_eq, Option.bind_eq_some_iff, Option.some.injEq, hleast, hmost, hlimit]
  constructor
  · rintro ⟨⟨hne, hdigits⟩, m, ⟨-, hvalue⟩, hrange, rfl⟩
    exact ⟨⟨m, ⟨hne, hdigits, hvalue⟩, rfl⟩, hrange⟩
  · rintro ⟨⟨m, ⟨hne, hdigits, rfl⟩, rfl⟩, hrange⟩
    refine ⟨⟨hne, hdigits⟩, _, ⟨?_, rfl⟩, hrange, rfl⟩
    -- a number that fits with its sign fits without it
    unfold signed at hrange
    split at hrange <;> omega

theorem DigitText.noBlank {n : Nat} {ds : List Char} (h : DigitText n ds) :
    ∀ c ∈ ds, Text.isBlank c = false := fun c hc =>
  Text.isBlank_of_isDigit (h.digits c hc)

theorem SignedText.noBlank {n : Int} {cs : List Char} (h : SignedText n cs) :
    ∀ c ∈ cs, Text.isBlank c = false := by
  cases h with
  | plain h => exact h.noBlank
  | plus h => exact List.forall_mem_cons.mpr ⟨rfl, h.noBlank⟩
  | minus h => exact List.forall_mem_cons.mpr ⟨rfl, h.noBlank⟩

theorem SignedText.ne_nil {n : Int} {cs : List Char} (h : SignedText n cs) : cs ≠ [] := by
  cases h with
  | plain h => exact h.nonempty
  | plus h | minus h => exact List.cons_ne_nil _ _

theorem parseInteger_iff {n : Int} {cs : List Char} :
    parseInteger? cs = some n ↔ IntegerText n cs := by
  rw [parseInteger_trim_iff]
  constructor
  · rintro ⟨h, least, most⟩
    obtain ⟨before, after, hcs, hbefore, hafter⟩ := Text.trim_split cs
    rw [hcs]
    exact .mk hbefore hafter h least most
  · rintro ⟨hbefore, hafter, h, least, most⟩
    rw [Text.trim_around_plain hbefore hafter h.ne_nil h.noBlank]
    exact ⟨h, least, most⟩

theorem digitText_decimalDigits (n : Nat) : DigitText n (decimalDigits n) :=
  ⟨Nat.toDigits_ne_nil, fun _ hc => Json.isDigit_of_mem_decimalDigits hc,
    Nat.ofDigitChars_ten_toDigits⟩

theorem signedText_printInt (n : Int) : SignedText n (printInt n).toList := by
  have hdigits := digitText_decimalDigits n.natAbs
  by_cases hn : n < 0
  · have htext : (printInt n).toList = '-' :: decimalDigits n.natAbs := by
      simp [printInt, hn, printNat]
    have habs : n = -(n.natAbs : Int) := by omega
    rw [htext]
    nth_rewrite 1 [habs]
    exact .minus hdigits
  · have htext : (printInt n).toList = decimalDigits n.natAbs := by
      simp [printInt, hn, printNat]
    have habs : n = (n.natAbs : Int) := by omega
    rw [htext]
    nth_rewrite 1 [habs]
    exact .plain hdigits

end Number

open Number (IntegerText)

theorem isInteger_iff {literal : String} :
    isInteger literal = true ↔ ∃ n, IntegerText n literal.toList := by
  simp only [isInteger, Option.isSome_iff_exists, Number.parseInteger_iff]

/-- A text is read as an integer exactly if it is a sign and digits between blanks whose number has
64 bits; the text of such a number in a request is read back as the number, whatever blanks stand
around it. So a literal beside the identifier is compared with the integer identity, by any
operator, exactly if it is such a text, and a list of literals if all of them are. -/
theorem integers_read_and_routed :
    (∀ cs n, Number.parseInteger? cs = some n ↔ IntegerText n cs) ∧
    (∀ n : Int, -2 ^ 63 ≤ n → n ≤ 2 ^ 63 - 1 → ∀ before after : List Char,
      (∀ c ∈ before, Text.isBlank c = true) → (∀ c ∈ after, Text.isBlank c = true) →
        Number.parseInteger? (before ++ ((Scalar.long n).toJson.compact.toList ++ after)) = some n) ∧
    ∀ a : Attribute, a.Identifies →
      (∀ literal,
        (∀ op, (Filter.comparison op (.field [a]) (.literal literal)).SentTo "databaseId" ↔
          ∃ n, IntegerText n literal.toList) ∧
        ((Filter.comparison .eq (.field [a]) (.literal literal)).SentTo "_id" ↔
          ¬ ∃ n, IntegerText n literal.toList)) ∧
      ∀ literals, a.targetField literals = "databaseId" ↔
        literals ≠ [] ∧ ∀ s ∈ literals, ∃ n, IntegerText n s.toList := by
  refine ⟨fun _ _ => Number.parseInteger_iff, ?_, ?_⟩
  · intro n least most before after hbefore hafter
    have htext : (Scalar.long n).toJson.compact.toList = (Number.printInt n).toList := by
      simp [Scalar.toJson, Json.compact, Json.write, Json.Numeral.print]
    rw [htext]
    exact Number.parseInteger_iff.mpr
      (.mk hbefore hafter (Number.signedText_printInt n) least most)
  · intro a ha
    refine ⟨?_, ?_⟩
    · intro literal
      rw [← isInteger_iff]
      simp only [comparison_sentTo_iff ha, @eq_comm _ "databaseId", @eq_comm _ "_id",
        identifierField_documentId_iff, ne_eq, identifierField_singleton_iff, or_true, true_and,
        and_true]
      intro op
      exact and_iff_right_of_imp .inl
    · intro literals
      simp only [targetField_of_identifier ha, identifierField_databaseId_iff, isInteger_iff]

/-- The least integer is read back from its text; one above the greatest is compared as text. -/
theorem extremeKeys_read_and_routed :
    (∀ c ∈ ['\u3000'], Text.isBlank c = true) ∧ (∀ c ∈ ['\n', ' '], Text.isBlank c = true) ∧
      (Scalar.long (-9223372036854775808)).toJson.compact = "-9223372036854775808" ∧
      Number.parseInteger? (['\u3000'] ++
        ((Scalar.long (-9223372036854775808)).toJson.compact.toList ++ ['\n', ' '])) =
          some (-9223372036854775808) ∧
      Attribute.Identifies ⟨"Key", .identifier⟩ ∧
      IntegerText 9223372036854775807 "+0009223372036854775807".toList ∧
      (Filter.comparison .lt (.field [⟨"Key", .identifier⟩])
        (.literal "+0009223372036854775807")).SentTo "databaseId" ∧
      (¬ ∃ n, IntegerText n "9223372036854775808".toList) ∧
      (Filter.comparison .eq (.field [⟨"Key", .identifier⟩])
        (.literal "9223372036854775808")).SentTo "_id" := by
  have hbefore : ∀ c ∈ ['\u3000'], Text.isBlank c = true := by simp [Text.isBlank]
  have hafter : ∀ c ∈ ['\n', ' '], Text.isBlank c = true := by simp [Text.isBlank]
  have hidentifies : Attribute.Identifies ⟨"Key", .identifier⟩ := .inl rfl
  obtain ⟨hread, hprinted, hrouted⟩ := integers_read_and_routed
  have hgreatest : IntegerText 9223372036854775807 "+0009223372036854775807".toList :=
    (hread _ _).mp (by decide)
  have hbeyond : ¬ ∃ n, IntegerText n "9223372036854775808".toList := by
    rintro ⟨n, hn⟩
    have hnone : Number.parseInteger? "9223372036854775808".toList = none := by decide
    rw [(hread _ _).mpr hn] at hnone
    cases hnone
  have hkeys := (hrouted ⟨"Key", .identifier⟩ hidentifies).1
  exact ⟨hbefore, hafter, by decide, hprinted _ (by decide) (by decide) _ _ hbefore hafter,
    hidentifies, hgreatest, ((hkeys _).1 .lt).mpr ⟨_, hgreatest⟩, hbeyond, (hkeys _).2.mpr hbeyond⟩

end ResourceQuery
