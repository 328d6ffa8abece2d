import ResourceQuery.Json.Printer
import ResourceQuery.Proofs.JsonSpelling

namespace ResourceQuery.Json

mutual

/-- The value as a draft without faults. -/
def draft : Json → Draft
  | .null => .null
  | .bool b => .bool b
  | .number n => .number (.ok n)
  | .string s => .string (.ok s)
  | .array items => .array (itemDrafts items) none
  | .object members => .object (memberDrafts members) none

def itemDrafts : List Json → List Draft
  | [] => []
  | v :: vs => v.draft :: itemDrafts vs

def memberDrafts : List (String × Json) → List (Except SyntaxError String × Draft)
  | [] => []
  | (k, v) :: ms => (.ok k, v.draft) :: memberDrafts ms

end

/-- Every number in the value is an integer of 64 bits, with or without a sign. -/
inductive Integral : Json → Prop where
  | null : Integral .null
  | bool (b : Bool) : Integral (.bool b)
  | number {n : Int} (least : -9223372036854775808 ≤ n) (most : n ≤ 18446744073709551615) :
      Integral (.number (.integer n))
  | string (s : String) : Integral (.string s)
  | array {items : List Json} (each : ∀ v ∈ items, Integral v) : Integral (.array items)
  | object {members : List (String × Json)} (each : ∀ m ∈ members, Integral m.2) :
      Integral (.object members)

theorem itemDrafts_eq_map (vs : List Json) : itemDrafts vs = vs.map draft := by
  induction vs with
  | nil => rfl
  | cons v vs ih => rw [itemDrafts, List.map_cons, ih]

theorem memberDrafts_eq_map (ms : List (String × Json)) :
    memberDrafts ms = ms.map fun m => (.ok m.1, m.2.draft) := by
  induction ms with
  | nil => rfl
  | cons m ms ih => rw [memberDrafts, List.map_cons, ih]

theorem isDigit_of_mem_decimalDigits {n : Nat} {c : Char} (h : c ∈ Number.decimalDigits n) :
    c.isDigit = true :=
  Nat.isDigit_of_mem_toDigits (by decide) (by decide) h

/-- The digits of a number begin with a zero only where it is the one digit. -/
theorem decimalDigits_head (n : Nat) :
    (Number.decimalDigits n).head? = some '0' → (Number.decimalDigits n).length = 1 := by
  induction n using Nat.strongRecOn with
  | ind n ih =>
    intro h
    unfold Number.decimalDigits at ih h ⊢
    by_cases hn : n < 10
    · simp [Nat.toDigits_of_lt_base hn]
    · rw [Nat.toDigits_of_base_le (by decide) (by omega), List.head?_append,
        Option.or_of_isSome (by simp [Nat.toDigits_ne_nil])] at h
      -- a single zero in front would be the quotient of a number below ten
      have hone := ih (n / 10) (by omega) h
      have hlt : n / 10 < 10 ^ 1 := (Nat.length_toDigits_le_iff (by decide) (by decide)).mp
        (Nat.le_of_eq hone)
      rw [Nat.toDigits_of_lt_base (by omega)] at h
      have hzero : (n / 10).digitChar = '0' := by simpa using h
      rw [Nat.digitChar_eq_zero] at hzero
      omega

/-- Digits whose number fits 64 bits are gathered whole. -/
theorem gatherWhole_of_le {ds : List Char} {acc : Nat}
    (h : Nat.ofDigitChars 10 ds acc ≤ Number.maxNat64) :
    gatherWhole acc ds = ⟨Nat.ofDigitChars 10 ds acc, 0⟩ := by
  induction ds generalizing acc with
  | nil => rw [gatherWhole, Nat.ofDigitChars_nil]
  | cons c ds ih =>
    have hstep : 10 * acc + Number.digitValue c = 10 * acc + (c.toNat - '0'.toNat) := rfl
    rw [Nat.ofDigitChars_cons] at h ⊢
    have hle : 10 * acc + (c.toNat - '0'.toNat) ≤ Number.maxNat64 := by
      rw [Nat.ofDigitChars_eq_ofDigitChars_zero] at h
      have hpos : 0 < 10 ^ ds.length := Nat.pow_pos (by decide)
      calc 10 * acc + (c.toNat - '0'.toNat)
          ≤ 10 ^ ds.length * (10 * acc + (c.toNat - '0'.toNat)) := Nat.le_mul_of_pos_left _ hpos
        _ ≤ Number.maxNat64 := Nat.le_trans (Nat.le_add_right _ _) h
    rw [gatherWhole, hstep, if_neg (by omega), ih h]

/-- The parts of an integer as it is written. -/
def writtenInteger (n : Int) : Written :=
  ⟨n < 0, Number.decimalDigits n.natAbs, none, none⟩

theorem writtenInteger_value {n : Int} (least : -9223372036854775808 ≤ n)
    (most : n ≤ 18446744073709551615) : (writtenInteger n).value = .ok (.integer n) := by
  have hdigits : Nat.ofDigitChars 10 (Number.decimalDigits n.natAbs) 0 = n.natAbs :=
    Nat.ofDigitChars_ten_toDigits
  have hwhole : gatherWhole 0 (Number.decimalDigits n.natAbs) = ⟨n.natAbs, 0⟩ := by
    rw [gatherWhole_of_le, hdigits]
    rw [hdigits, Number.maxNat64]
    omega
  have hvalue : integerOr (decide (n < 0)) n.natAbs = .integer n := by
    have hbound : Number.twoTo 63 = 9223372036854775808 := rfl
    by_cases hn : n < 0
    · have hfit : n.natAbs ≠ 0 ∧ n.natAbs ≤ Number.twoTo 63 := by omega
      have habs : -(n.natAbs : Int) = n := by omega
      rw [integerOr, if_neg (by simp [hn]), if_pos hfit, habs]
    · have habs : (n.natAbs : Int) = n := by omega
      rw [integerOr, if_pos (by simp [hn]), habs]
  simp [Written.value, writtenInteger, hwhole, hvalue]

/-- Text that does not begin with a digit. -/
def EndsDigits (r : List Char) : Prop :=
  ∀ c t, r = c :: t → ¬ c.isDigit

/-- Text that does not begin with a digit or a point. -/
def EndsWhole (r : List Char) : Prop :=
  ∀ c t, r = c :: t → ¬ (c.isDigit ∨ c = '.')

theorem EndsNumber.whole {r : List Char} (h : EndsNumber r) : EndsWhole r := by
  intro c t hr hc
  apply h c t hr
  rcases hc with hc | hc
  · exact .inl hc
  · exact .inr (.inl hc)

theorem EndsWhole.digits {r : List Char} (h : EndsWhole r) : EndsDigits r :=
  fun c t hr hc => h c t hr (.inl hc)

theorem readDigits_append {ds r : List Char} (hne : ds ≠ []) (hds : ∀ c ∈ ds, c.isDigit = true)
    (hr : EndsDigits r) : readDigits (ds ++ r) = .ok (ds, r) := by
  have hstop : r.takeWhile Char.isDigit = [] ∧ r.dropWhile Char.isDigit = r := by
    cases r with
    | nil => exact ⟨rfl, rfl⟩
    | cons c r =>
      have hc : ¬ c.isDigit = true := hr c r rfl
      simp [hc]
  simp [readDigits, List.takeWhile_append_of_pos hds, List.dropWhile_append_of_pos hds, hstop, hne]

theorem readFraction_end {r : List Char} (hr : EndsWhole r) : readFraction r = .ok (none, r) := by
  unfold readFraction
  split
  next r' => exact absurd (.inr rfl) (hr '.' r' rfl)
  next => rfl

theorem readExponent_end {r : List Char} (hr : EndsNumber r) : readExponent r = .ok (none, r) := by
  cases r with
  | nil => rfl
  | cons c r =>
    have hc : ¬ (c = 'e' ∨ c = 'E') := fun he => hr c r rfl (.inr (.inr he))
    rw [readExponent, if_neg hc]

theorem readWhole_decimalDigits (n : Nat) {r : List Char} (hr : EndsNumber r) :
    readWhole (Number.decimalDigits n ++ r) = .ok (Number.decimalDigits n, r) := by
  have hne : Number.decimalDigits n ≠ [] := Nat.toDigits_ne_nil
  have hread := readDigits_append hne (fun c hc => isDigit_of_mem_decimalDigits hc) hr.whole.digits
  have hzero : ¬ ((Number.decimalDigits n).head? = some '0' ∧
      (Number.decimalDigits n).length ≠ 1) := by
    intro h
    exact h.2 (decimalDigits_head n h.1)
  simp only [readWhole, hread, ok_bind, if_neg hzero]

/-- An integer is read as its sign and digits. -/
theorem numberSpelling_integer (n : Int) :
    NumberSpelling (writtenInteger n) (Number.printInt n).toList := by
  obtain ⟨c, t, hdigits⟩ : ∃ c t, Number.decimalDigits n.natAbs = c :: t :=
    List.exists_cons_of_ne_nil Nat.toDigits_ne_nil
  have hc : c.isDigit = true := by
    apply isDigit_of_mem_decimalDigits
    rw [hdigits]
    exact List.mem_cons_self
  have hread {r : List Char} (hr : EndsNumber r) := readWhole_decimalDigits n.natAbs hr
  by_cases hn : n < 0
  · have htext : (Number.printInt n).toList = '-' :: Number.decimalDigits n.natAbs := by
      simp [Number.printInt, hn, Number.printNat]
    rw [htext]
    refine ⟨⟨'-', _, rfl, .inl rfl⟩, ?_⟩
    intro r hr
    simp [readNumber, hread hr, readFraction_end hr.whole, readExponent_end hr, writtenInteger, hn]
  · have htext : (Number.printInt n).toList = Number.decimalDigits n.natAbs := by
      simp [Number.printInt, hn, Number.printNat]
    have hminus : c ≠ '-' := by
      intro h
      subst h
      exact absurd hc (by decide)
    rw [htext]
    refine ⟨⟨c, t, hdigits, .inr hc⟩, ?_⟩
    intro r hr
    have hread := hread hr
    rw [hdigits, List.cons_append] at hread ⊢
    simp [readNumber, hread, hminus, readFraction_end hr.whole, readExponent_end hr,
      writtenInteger, hn, hdigits]

/-- The two digits behind the zeros of an escape for a control character. -/
theorem controlEscape (n : Nat) (h : n < 32) :
    (if n < 16 then ['\\', 'u', '0', '0', '0'] ++ Text.hexDigits n
      else ['\\', 'u', '0', '0'] ++ Text.hexDigits n) =
        ['\\', 'u', '0', '0', (n / 16).digitChar, (n % 16).digitChar] ∧
    hexUnit? '0' '0' (n / 16).digitChar (n % 16).digitChar = some n := by
  revert n
  decide

theorem readQuoted_control {c : Char} (hc : c.toNat < 32) (r : List Char) :
    readQuoted none
        (['\\', 'u', '0', '0', (c.toNat / 16).digitChar, (c.toNat % 16).digitChar] ++ r) =
      (readQuoted none r).cons c := by
  have hunit := (controlEscape c.toNat hc).2
  have htrail : isTrailingSurrogate c.toNat = false := by
    simp only [isTrailingSurrogate, Bool.and_eq_false_iff, decide_eq_false_iff_not]
    omega
  have hlead : isLeadingSurrogate c.toNat = false := by
    simp only [isLeadingSurrogate, Bool.and_eq_false_iff, decide_eq_false_iff_not]
    omega
  simp [readQuoted, hunit, htrail, hlead]

theorem readQuoted_plain {c : Char} (hq : c ≠ '"') (hb : c ≠ '\\') (hc : ¬ c.toNat < 32)
    (r : List Char) : readQuoted none ([c] ++ r) = (readQuoted none r).cons c := by
  simp [readQuoted, hb, hc, QuotedText.unpaired]

/-- An escaped character is read as itself. -/
theorem readQuoted_escape (c : Char) (r : List Char) :
    readQuoted none (escape c ++ r) = (readQuoted none r).cons c := by
  by_cases hq : c = '"'
  · subst c
    rfl
  by_cases hb : c = '\\'
  · subst c
    rfl
  by_cases hn : c = '\n'
  · subst c
    rfl
  by_cases hr : c = '\r'
  · subst c
    rfl
  by_cases ht : c = '\t'
  · subst c
    rfl
  by_cases hback : c = '\x08'
  · subst c
    rfl
  by_cases hfeed : c = '\x0c'
  · subst c
    rfl
  have h8 : c.toNat ≠ 8 := fun h => hback (Char.toNat_inj.mp h)
  have h12 : c.toNat ≠ 12 := fun h => hfeed (Char.toNat_inj.mp h)
  by_cases hc : c.toNat < 32
  · have htext : escape c =
        ['\\', 'u', '0', '0', (c.toNat / 16).digitChar, (c.toNat % 16).digitChar] := by
      rw [← (controlEscape c.toNat hc).1]
      simp only [escape, hq, hb, hn, hr, ht, h8, h12, hc, if_true, if_false]
    rw [htext]
    exact readQuoted_control hc r
  · have htext : escape c = [c] := by
      have h16 : ¬ c.toNat < 16 := by omega
      simp only [escape, hq, hb, hn, hr, ht, h8, h12, hc, h16, if_false]
    rw [htext]
    exact readQuoted_plain hq hb hc r

/-- Behind its opening quote a quoted text is read as itself. -/
theorem quotedSpelling_escape (cs : List Char) :
    QuotedSpelling (.ok cs) (cs.flatMap escape ++ ['"']) := by
  intro r
  induction cs with
  | nil => rfl
  | cons c cs ih =>
    rw [List.flatMap_cons, List.append_assoc, List.append_assoc, readQuoted_escape,
      ← List.append_assoc, ih]
    rfl

/-- What holds of the value of an optional member, where it is there. -/
theorem forall_memberIf {α : Type} {P : Json → Prop} {key : String} {o : Option α}
    {encode : α → Json} (h : ∀ x, o = some x → P (encode x)) :
    ∀ m ∈ memberIf key (o.map encode), P m.2 := by
  cases o with
  | none => simp [memberIf]
  | some x => simp [memberIf, h x rfl]

theorem blanks_nil : Blanks [] := nofun

theorem joined_cons (sep t : List Char) (ts : List (List Char)) :
    joined sep (t :: ts) = t ++ ts.flatMap (sep ++ ·) := by
  induction ts generalizing t with
  | nil => simp [joined]
  | cons u ts ih => rw [joined, ih, List.flatMap_cons, List.append_assoc, List.append_assoc]

theorem moreItems_write {vs : List Json} (h : ∀ v ∈ vs, Spelling v.draft (write v)) :
    MoreItems (itemDrafts vs) ((writeItems vs).flatMap ([','] ++ ·) ++ [']']) := by
  induction vs with
  | nil => exact .close blanks_nil
  | cons v vs ih =>
    have hmore := ih fun u hu => h u (by simp [hu])
    have hnext := MoreItems.next blanks_nil blanks_nil (h v (by simp)) hmore
    simpa [writeItems, itemDrafts] using hnext

theorem memberSpelling_write {v : Json} (k : String) (h : Spelling v.draft (write v)) :
    MemberSpelling (.ok k, v.draft) (quote k ++ ':' :: write v) := by
  have hmember := MemberSpelling.mk (quotedSpelling_escape k.toList) blanks_nil blanks_nil h
  simpa [quote, Except.map] using hmember

theorem moreMembers_write {ms : List (String × Json)}
    (h : ∀ m ∈ ms, Spelling m.2.draft (write m.2)) :
    MoreMembers (memberDrafts ms) ((writeMembers ms).flatMap ([','] ++ ·) ++ ['\x7d']) := by
  induction ms with
  | nil => exact .close blanks_nil
  | cons m ms ih =>
    have hmore := ih fun u hu => h u (by simp [hu])
    have hmember := memberSpelling_write m.1 (h m (by simp))
    have hnext := MoreMembers.next blanks_nil blanks_nil hmember hmore
    simpa [writeMembers, memberDrafts] using hnext

/-- The compact text of a value spells the value. -/
theorem spelling_write {v : Json} (h : Integral v) : Spelling v.draft (write v) := by
  induction h with
  | null => exact .null
  | bool b =>
    cases b with
    | false => exact .no
    | true => exact .yes
  | @number n least most =>
    have hnumber := Spelling.number (numberSpelling_integer n)
    rw [writtenInteger_value least most] at hnumber
    exact hnumber
  | string s =>
    have hstring := Spelling.string (quotedSpelling_escape s.toList)
    simpa [draft, write, quote, Except.map] using hstring
  | @array items each ih =>
    cases items with
    | nil => exact .noItems blanks_nil
    | cons v vs =>
      have hmore := moreItems_write fun u hu => ih u (List.mem_cons_of_mem v hu)
      have hitems := Spelling.items blanks_nil (ih v (by simp)) hmore
      simpa [draft, itemDrafts, write, writeItems, joined_cons] using hitems
  | @object members each ih =>
    cases members with
    | nil => exact .noMembers blanks_nil
    | cons m ms =>
      have hmore := moreMembers_write fun u hu => ih u (List.mem_cons_of_mem m hu)
      have hmember := memberSpelling_write m.1 (ih m (by simp))
      have hmembers := Spelling.members blanks_nil hmember hmore
      simpa [draft, memberDrafts, write, writeMembers, joined_cons] using hmembers

/-- Decoding the compact text of a value is decoding the value as a draft. -/
theorem decodeText_compact {α : Type} (decode : Nat → Draft → Except Error α) {v : Json}
    (h : Integral v) : decodeText decode v.compact = decode nestingLimit v.draft := by
  have htext := decodeText_spelling decode blanks_nil (spelling_write h) blanks_nil
  simpa [compact] using htext

end ResourceQuery.Json
