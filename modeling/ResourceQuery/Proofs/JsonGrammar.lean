import ResourceQuery.Proofs.JsonNesting

namespace ResourceQuery.Json

theorem Blanks.append {b b' : List Char} (hb : Blanks b) (hb' : Blanks b') : Blanks (b ++ b') := by
  intro c hc
  rcases List.mem_append.mp hc with hc | hc
  · exact hb c hc
  · exact hb' c hc

theorem exists_blanks (cs : List Char) : ∃ b, Blanks b ∧ cs = b ++ skipSpace cs := by
  refine ⟨cs.takeWhile isSpace, ?_, List.takeWhile_append_dropWhile.symm⟩
  intro c hc
  exact List.mem_takeWhile_imp hc

theorem ofWord_split {d : Draft} {ws cs r : List Char}
    (h : (Sketch.ofWord d ws cs).rest = .ok r) :
    (Sketch.ofWord d ws cs).draft = d ∧ cs = ws ++ r := by
  induction ws generalizing cs with
  | nil =>
    cases h
    exact ⟨rfl, rfl⟩
  | cons w ws ih =>
    cases cs with
    | nil => cases h
    | cons c cs =>
      by_cases hc : c = w
      · rw [Sketch.ofWord, if_pos hc] at h ⊢
        obtain ⟨hd, hcs⟩ := ih h
        exact ⟨hd, by rw [hc, hcs, List.cons_append]⟩
      · rw [Sketch.ofWord, if_neg hc] at h
        cases h

theorem ofQuoted_split {q : QuotedText} {r : List Char} (h : (Sketch.ofQuoted q).rest = .ok r) :
    q.rest = .ok r ∧ (Sketch.ofQuoted q).draft = .string (q.text.map String.ofList) := by
  obtain ⟨text, rest⟩ := q
  cases rest with
  | ok t =>
    cases h
    exact ⟨rfl, rfl⟩
  | error e => cases text <;> cases h

/-- If reading comes to an end of the string, it comes to the same end whatever stands behind. -/
def EndsAlike (lead : Option Nat) (cs : List Char) : Prop :=
  ∀ r, (readQuoted lead cs).rest = .ok r →
    ∃ ks, cs = ks ++ r ∧ ∀ u, readQuoted lead (ks ++ u) = ⟨(readQuoted lead cs).text, .ok u⟩

theorem EndsAlike.of_stop {lead : Option Nat} {cs : List Char} {e : SyntaxError}
    (h : (readQuoted lead cs).rest = .error e) : EndsAlike lead cs := by
  intro r hr
  rw [h] at hr
  cases hr

/-- One step reads `pre` and changes the text of what follows by `f`. -/
theorem EndsAlike.step {lead lead' : Option Nat} {pre cs : List Char}
    {f : Except SyntaxError (List Char) → Except SyntaxError (List Char)}
    (h : EndsAlike lead' cs) (hstep : ∀ u, readQuoted lead (pre ++ u) =
      ⟨f (readQuoted lead' u).text, (readQuoted lead' u).rest⟩) :
    EndsAlike lead (pre ++ cs) := by
  intro r hr
  rw [hstep] at hr
  obtain ⟨ks, hks, hread⟩ := h r hr
  refine ⟨pre ++ ks, by rw [hks, List.append_assoc], fun u => ?_⟩
  rw [List.append_assoc, hstep, hread, hstep]

theorem readQuoted_endsAlike (lead : Option Nat) (cs : List Char) : EndsAlike lead cs := by
  -- along the recursion of the reader, which may hand a leading surrogate on
  induction lead, cs using readQuoted.induct with
  | case1 => exact .of_stop rfl
  | case2 lead t =>
    intro r hr
    rw [readQuoted, QuotedText.unpaired_rest] at hr
    cases hr
    refine ⟨['"'], rfl, fun u => ?_⟩
    cases lead <;> rfl
  | case3 lead a b c d t hn =>
    apply EndsAlike.of_stop
    rw [readQuoted]
    · rfl
    · exact hn
  | case4 a b c d t n first hn htrail ih =>
    show EndsAlike _ (['\\', 'u', a, b, c, d] ++ t)
    have hstep (u : List Char) : readQuoted (some first) (['\\', 'u', a, b, c, d] ++ u) =
        (readQuoted none u).cons (pairChar first n) := by
      simp [readQuoted, hn, htrail]
    exact ih.step hstep
  | case5 a b c d t n first hn htrail ih =>
    show EndsAlike _ (['\\', 'u', a, b, c, d] ++ t)
    have hstep (u : List Char) : readQuoted (some first) (['\\', 'u', a, b, c, d] ++ u) =
        (readQuoted none u).spoil .loneSurrogate := by
      simp [readQuoted, hn, htrail]
    exact @EndsAlike.step _ _ _ _ (fun _ => _) ih hstep
  | case6 a b c d t n hn htrail ih =>
    show EndsAlike _ (['\\', 'u', a, b, c, d] ++ t)
    have hstep (u : List Char) : readQuoted none (['\\', 'u', a, b, c, d] ++ u) =
        (readQuoted none u).spoil .loneSurrogate := by
      simp [readQuoted, hn, htrail]
    exact @EndsAlike.step _ _ _ _ (fun _ => _) ih hstep
  | case7 a b c d t n hn htrail hlead ih =>
    show EndsAlike _ (['\\', 'u', a, b, c, d] ++ t)
    have hstep (u : List Char) : readQuoted none (['\\', 'u', a, b, c, d] ++ u) =
        readQuoted (some n) u := by
      simp [readQuoted, hn, htrail, hlead]
    exact @EndsAlike.step _ _ _ _ id ih hstep
  | case8 a b c d t n hn htrail hlead ih =>
    show EndsAlike _ (['\\', 'u', a, b, c, d] ++ t)
    have hstep (u : List Char) : readQuoted none (['\\', 'u', a, b, c, d] ++ u) =
        (readQuoted none u).cons (Char.ofNat n) := by
      simp [readQuoted, hn, htrail, hlead]
    exact ih.step hstep
  | case9 lead t hshort =>
    apply EndsAlike.of_stop
    rw [readQuoted]
    · rfl
    · exact hshort
  | case10 => exact .of_stop rfl
  | case11 lead c t hlong hshort e he ih =>
    have hu : c ≠ 'u' := hshort
    show EndsAlike _ (['\\', c] ++ t)
    have hstep (u : List Char) : readQuoted lead (['\\', c] ++ u) =
        ((readQuoted none u).cons e).unpaired lead := by
      simp [readQuoted, hu, he]
    cases lead with
    | none => exact ih.step hstep
    | some first => exact @EndsAlike.step _ _ _ _ (fun _ => _) ih hstep
  | case12 lead c t hlong hshort he =>
    apply EndsAlike.of_stop
    simp [readQuoted, he, QuotedText.unpaired_rest]
    rfl
  | case13 lead c t hq hlong hshort hend hnext hc =>
    apply EndsAlike.of_stop
    simp [readQuoted, hc, QuotedText.unpaired_rest]
    rfl
  | case14 lead c t hq hlong hshort hend hnext hc ih =>
    have hb : c ≠ '\\' := by
      intro hb
      cases t with
      | nil => exact hend hb rfl
      | cons d t => exact hnext d t hb rfl
    show EndsAlike _ ([c] ++ t)
    have hstep (u : List Char) : readQuoted lead ([c] ++ u) =
        ((readQuoted none u).cons c).unpaired lead := by
      simp [readQuoted, hb, hc]
    cases lead with
    | none => exact ih.step hstep
    | some first => exact @EndsAlike.step _ _ _ _ (fun _ => _) ih hstep

theorem quotedSpelling_of_read {cs r : List Char} (h : (readQuoted none cs).rest = .ok r) :
    ∃ ks, QuotedSpelling (readQuoted none cs).text ks ∧ cs = ks ++ r := by
  obtain ⟨ks, hks, hread⟩ := readQuoted_endsAlike none cs r h
  exact ⟨ks, hread, hks⟩

theorem readDigits_split {cs ds r : List Char} (h : readDigits cs = .ok (ds, r)) :
    cs = ds ++ r ∧ (∃ c t, ds = c :: t ∧ c.isDigit) ∧
      ∀ u, EndsDigits u → readDigits (ds ++ u) = .ok (ds, u) := by
  unfold readDigits at h
  simp only at h
  split at h
  next => cases h
  next hne =>
    cases h
    have hdigits (c : Char) (hc : c ∈ cs.takeWhile Char.isDigit) : c.isDigit :=
      List.mem_takeWhile_imp hc
    have hne : cs.takeWhile Char.isDigit ≠ [] := by simpa using hne
    refine ⟨List.takeWhile_append_dropWhile.symm, ?_, fun u hu => readDigits_append hne hdigits hu⟩
    obtain ⟨c, t, ht⟩ := List.exists_cons_of_ne_nil hne
    exact ⟨c, t, ht, hdigits c (by simp [ht])⟩

theorem readWhole_split {cs ds r : List Char} (h : readWhole cs = .ok (ds, r)) :
    cs = ds ++ r ∧ (∃ c t, ds = c :: t ∧ c.isDigit) ∧
      ∀ u, EndsDigits u → readWhole (ds ++ u) = .ok (ds, u) := by
  obtain ⟨⟨es, t⟩, hread, h⟩ := bind_ok_iff.mp h
  simp only at h
  split at h
  next => cases h
  next hzero =>
    cases h
    obtain ⟨hcs, hhead, hagain⟩ := readDigits_split hread
    refine ⟨hcs, hhead, fun u hu => ?_⟩
    simp only [readWhole, hagain u hu, ok_bind, if_neg hzero]

theorem readFraction_split {cs r : List Char} {fraction : Option (List Char)}
    (h : readFraction cs = .ok (fraction, r)) :
    ∃ ks, cs = ks ++ r ∧
      ∀ u, EndsWhole u → EndsDigits (ks ++ u) ∧ readFraction (ks ++ u) = .ok (fraction, u) := by
  unfold readFraction at h
  split at h
  next t =>
    obtain ⟨⟨ds, v⟩, hread, h⟩ := bind_ok_iff.mp h
    cases h
    obtain ⟨rfl, -, hagain⟩ := readDigits_split hread
    refine ⟨'.' :: ds, rfl, fun u hu => ⟨?_, ?_⟩⟩
    · intro c t hc
      obtain ⟨rfl, -⟩ := List.cons.inj hc
      decide
    · rw [List.cons_append, readFraction, hagain u hu.digits]
      rfl
  next =>
    cases h
    exact ⟨[], rfl, fun u hu => ⟨hu.digits, readFraction_end hu⟩⟩

theorem takeSign_split {cs r : List Char} {down : Bool} (h : Number.takeSign cs = (down, r)) :
    ∃ ks, cs = ks ++ r ∧
      ∀ c u, c.isDigit → Number.takeSign (ks ++ c :: u) = (down, c :: u) := by
  unfold Number.takeSign at h
  split at h
  next =>
    cases h
    exact ⟨['-'], rfl, fun c u _ => rfl⟩
  next =>
    cases h
    exact ⟨['+'], rfl, fun c u _ => rfl⟩
  next =>
    cases h
    refine ⟨[], rfl, fun c u hc => ?_⟩
    have hminus : c ≠ '-' := by
      rintro rfl
      cases hc
    have hplus : c ≠ '+' := by
      rintro rfl
      cases hc
    rw [List.nil_append, Number.takeSign]
    · simp [hminus]
    · simp [hplus]

theorem readExponent_split {cs r : List Char} {exponent : Option (Bool × List Char)}
    (h : readExponent cs = .ok (exponent, r)) :
    ∃ ks, cs = ks ++ r ∧
      ∀ u, EndsNumber u → EndsWhole (ks ++ u) ∧ readExponent (ks ++ u) = .ok (exponent, u) := by
  have hnone : ∃ ks, r = ks ++ r ∧
      ∀ u, EndsNumber u → EndsWhole (ks ++ u) ∧ readExponent (ks ++ u) = .ok (none, u) :=
    ⟨[], rfl, fun u hu => ⟨hu.whole, readExponent_end hu⟩⟩
  unfold readExponent at h
  split at h
  next c t =>
    split at h
    next hc =>
      rcases hsigned : Number.takeSign t with ⟨down, v⟩
      rw [hsigned] at h
      obtain ⟨⟨ds, v'⟩, hread, h⟩ := bind_ok_iff.mp h
      cases h
      obtain ⟨sign, rfl, hsign⟩ := takeSign_split hsigned
      obtain ⟨rfl, ⟨d, tl, rfl, hd⟩, hagain⟩ := readDigits_split hread
      refine ⟨c :: (sign ++ d :: tl), by simp, fun u hu => ⟨?_, ?_⟩⟩
      · intro e t he
        obtain ⟨rfl, -⟩ := List.cons.inj he
        rcases hc with rfl | rfl <;> decide
      · have hdigits := hagain u hu.whole.digits
        simp only [List.cons_append, List.append_assoc] at hdigits ⊢
        simp only [readExponent, hc, if_true, hsign d (tl ++ u) hd, hdigits]
        rfl
    next =>
      cases h
      exact hnone
  next =>
    cases h
    exact hnone

/-- A number is read alike in front of anything that is no part of it. -/
theorem numberSpelling_of_read {cs r : List Char} {w : Written} (h : readNumber cs = .ok (w, r)) :
    ∃ ks, NumberSpelling w ks ∧ cs = ks ++ r := by
  unfold readNumber at h
  split at h
  next _ negative t hsign =>
    obtain ⟨⟨whole, u⟩, hwhole, h⟩ := bind_ok_iff.mp h
    obtain ⟨⟨fraction, v⟩, hfraction, h⟩ := bind_ok_iff.mp h
    obtain ⟨⟨exponent, x⟩, hexponent, h⟩ := bind_ok_iff.mp h
    cases h
    obtain ⟨rfl, ⟨d, ds, rfl, hd⟩, hwholes⟩ := readWhole_split hwhole
    obtain ⟨fs, rfl, hfractions⟩ := readFraction_split hfraction
    obtain ⟨es, rfl, hexponents⟩ := readExponent_split hexponent
    have hread (u : List Char) (hu : EndsNumber u) :
        readWhole (d :: (ds ++ (fs ++ (es ++ u)))) = .ok (d :: ds, fs ++ (es ++ u)) ∧
        readFraction (fs ++ (es ++ u)) = .ok (fraction, es ++ u) ∧
        readExponent (es ++ u) = .ok (exponent, u) := by
      obtain ⟨hends, hexponent⟩ := hexponents u hu
      obtain ⟨hends, hfraction⟩ := hfractions _ hends
      exact ⟨hwholes _ hends, hfraction, hexponent⟩
    split at hsign
    next r =>
      cases hsign
      refine ⟨'-' :: d :: (ds ++ (fs ++ es)), ⟨⟨'-', _, rfl, .inl rfl⟩, fun u hu => ?_⟩, by simp⟩
      obtain ⟨hwhole, hfraction, hexponent⟩ := hread u hu
      simp [readNumber, hwhole, hfraction, hexponent]
    next hminus =>
      cases hsign
      refine ⟨d :: (ds ++ (fs ++ es)), ⟨⟨d, _, rfl, .inr hd⟩, fun u hu => ?_⟩, by simp⟩
      obtain ⟨hwhole, hfraction, hexponent⟩ := hread u hu
      have hne : d ≠ '-' := by
        rintro rfl
        cases hd
      simp [readNumber, hne, hwhole, hfraction, hexponent]

theorem ofNumber_split {cs r : List Char} (h : (Sketch.ofNumber cs).rest = .ok r) :
    ∃ ks, Spelling (Sketch.ofNumber cs).draft ks ∧ cs = ks ++ r := by
  unfold Sketch.ofNumber at h ⊢
  split at h
  next w t hread =>
    cases h
    obtain ⟨ks, hks, hcs⟩ := numberSpelling_of_read hread
    exact ⟨ks, .number hks, hcs⟩
  next => cases h

/-- What stands in front of an item or a member. -/
def Leads (first : Bool) (p : List Char) : Prop :=
  if first then Blanks p else ∃ b b', Blanks b ∧ Blanks b' ∧ p = b ++ ',' :: b'

/-- What the reader has passed over within this much fuel. -/
structure Passes (fuel : Nat) : Prop where
  value : ∀ {cs r}, (readValue fuel cs).rest = .ok r →
    ∃ b w, Blanks b ∧ Spelling (readValue fuel cs).draft w ∧ cs = b ++ (w ++ r)
  items : ∀ {cs r}, (readItems fuel false cs).rest = .ok r →
    ∃ ts, MoreItems (readItems fuel false cs).items ts ∧ cs = ts ++ r
  members : ∀ {cs r}, (readMembers fuel false cs).rest = .ok r →
    ∃ ts, MoreMembers (readMembers fuel false cs).items ts ∧ cs = ts ++ r

theorem leads_nothing {first : Bool} (hfirst : first = true) (cs : List Char) :
    ∃ p, cs = p ++ cs ∧ ∀ b, Blanks b → Leads first (b ++ p) := by
  refine ⟨[], rfl, fun b hb => ?_⟩
  rw [Leads, if_pos hfirst, List.append_nil]
  exact hb

theorem leads_comma {first : Bool} (hfirst : ¬ first = true) (cs : List Char) :
    ∃ p, ',' :: cs = p ++ skipSpace cs ∧ ∀ b, Blanks b → Leads first (b ++ p) := by
  obtain ⟨b', hb', hcs⟩ := exists_blanks cs
  refine ⟨',' :: b', by rw [List.cons_append, ← hcs], fun b hb => ?_⟩
  rw [Leads, if_neg hfirst]
  exact ⟨b, b', hb, hb', rfl⟩

/-- Items and keys begin alike, at once for the first one, else behind a comma and blanks. -/
theorem next_cases {first : Bool} {cs r : List Char}
    (h : nextItem first cs = .ok r ∨ nextKey first cs = .ok r) :
    first = true ∧ r = cs ∨ ¬ first = true ∧ ∃ t, cs = ',' :: t ∧ r = skipSpace t := by
  cases cs with
  | nil => simp [nextItem, nextKey] at h
  | cons c t =>
    by_cases hfirst : first = true
    · have hsame : c :: t = r := by simpa [nextItem, nextKey, hfirst] using h
      exact .inl ⟨hfirst, hsame.symm⟩
    by_cases hc : c = ','
    · subst hc
      simp only [nextItem, nextKey, if_neg hfirst, if_true] at h
      have hrest : skipSpace t = r := by
        rcases h with h | h
        all_goals
          split at h
          next => cases h
          next => cases h
          next => exact Except.ok.inj h
      exact .inr ⟨hfirst, t, rfl, hrest.symm⟩
    · simp [nextItem, nextKey, hfirst, hc] at h

theorem next_split {first : Bool} {cs r : List Char}
    (h : nextItem first cs = .ok r ∨ nextKey first cs = .ok r) :
    ∃ p, cs = p ++ r ∧ ∀ b, Blanks b → Leads first (b ++ p) := by
  rcases next_cases h with ⟨hfirst, rfl⟩ | ⟨hfirst, t, rfl, rfl⟩
  · exact leads_nothing hfirst _
  · exact leads_comma hfirst t

theorem afterColon_split {cs r : List Char} (h : afterColon cs = .ok r) :
    ∃ b, Blanks b ∧ cs = b ++ ':' :: r := by
  obtain ⟨b, hb, hcs⟩ := exists_blanks cs
  unfold afterColon at h
  split at h
  next t ht =>
    cases h
    exact ⟨b, hb, by rw [← ht, ← hcs]⟩
  next => cases h
  next => cases h

theorem Leads.blanks {first : Bool} {p b : List Char} (h : Leads first p) (hb : Blanks b) :
    Leads first (p ++ b) := by
  unfold Leads at h ⊢
  split
  next hfirst =>
    rw [if_pos hfirst] at h
    exact h.append hb
  next hfirst =>
    rw [if_neg hfirst] at h
    obtain ⟨c, c', hc, hc', rfl⟩ := h
    exact ⟨c, c' ++ b, hc, hc'.append hb, by simp⟩

/-- The closing bracket, or an item and what follows it. -/
theorem readItems_split {fuel : Nat} (ih : Passes fuel) {first : Bool} {cs r : List Char}
    (h : (readItems (fuel + 1) first cs).rest = .ok r) :
    ((readItems (fuel + 1) first cs).items = [] ∧ ∃ b, Blanks b ∧ cs = b ++ ']' :: r) ∨
      ∃ p w ts d ds, (readItems (fuel + 1) first cs).items = d :: ds ∧ Leads first p ∧
        Spelling d w ∧ MoreItems ds ts ∧ cs = p ++ (w ++ (ts ++ r)) := by
  obtain ⟨b, hb, hcs⟩ := exists_blanks cs
  generalize hs : readItems (fuel + 1) first cs = s at h ⊢
  rw [readItems] at hs
  split at hs
  next t ht =>
    subst hs
    cases h
    exact .inl ⟨rfl, b, hb, by rw [← ht, ← hcs]⟩
  next =>
    split at hs
    next =>
      subst hs
      cases h
    next t hnext =>
      obtain ⟨p, hp, hlead⟩ := next_split (.inl hnext)
      simp only at hs
      split at hs
      next =>
        subst hs
        cases h
      next u hu =>
        subst hs
        obtain ⟨b', w, hb', hw, ht⟩ := ih.value hu
        obtain ⟨ts, hts, hrest⟩ := ih.items h
        refine .inr ⟨b ++ p ++ b', w, ts, _, _, rfl, (hlead b hb).blanks hb', hw, hts, ?_⟩
        rw [hcs, hp, ht, hrest]
        simp

/-- The closing brace, or a member and what follows it. -/
theorem readMembers_split {fuel : Nat} (ih : Passes fuel) {first : Bool} {cs r : List Char}
    (h : (readMembers (fuel + 1) first cs).rest = .ok r) :
    ((readMembers (fuel + 1) first cs).items = [] ∧ ∃ b, Blanks b ∧ cs = b ++ '\x7d' :: r) ∨
      ∃ p w ts m ms, (readMembers (fuel + 1) first cs).items = m :: ms ∧ Leads first p ∧
        MemberSpelling m w ∧ MoreMembers ms ts ∧ cs = p ++ (w ++ (ts ++ r)) := by
  obtain ⟨b, hb, hcs⟩ := exists_blanks cs
  generalize hs : readMembers (fuel + 1) first cs = s at h ⊢
  rw [readMembers] at hs
  split at hs
  next t ht =>
    subst hs
    cases h
    exact .inl ⟨rfl, b, hb, by rw [← ht, ← hcs]⟩
  next =>
    split at hs
    next =>
      subst hs
      cases h
    next t hnext =>
      obtain ⟨p, hp, hlead⟩ := next_split (.inr hnext)
      simp only at hs
      split at hs
      next =>
        subst hs
        cases h
      next u hu =>
        obtain ⟨ks, hks, ht⟩ := quotedSpelling_of_read hu
        split at hs
        next =>
          subst hs
          cases h
        next v hv =>
          obtain ⟨b₁, hb₁, hu⟩ := afterColon_split hv
          split at hs
          next =>
            subst hs
            cases h
          next x hx =>
            subst hs
            obtain ⟨b₂, w, hb₂, hw, hv⟩ := ih.value hx
            obtain ⟨ts, hts, hrest⟩ := ih.members h
            refine .inr ⟨b ++ p, _, ts, _, _, rfl, hlead b hb, .mk hks hb₁ hb₂ hw, hts, ?_⟩
            rw [hcs, hp, ht, hu, hv, hrest]
            simp
    next =>
      subst hs
      cases h

theorem passes_value {fuel : Nat} (ih : ∀ m < fuel, Passes m) {cs r : List Char}
    (h : (readValue fuel cs).rest = .ok r) :
    ∃ b w, Blanks b ∧ Spelling (readValue fuel cs).draft w ∧ cs = b ++ (w ++ r) := by
  obtain _ | fuel := fuel
  · cases h
  obtain ⟨b, hb, hcs⟩ := exists_blanks cs
  suffices hvalue : ∃ w, Spelling (readValue (fuel + 1) cs).draft w ∧ skipSpace cs = w ++ r by
    obtain ⟨w, hw, hskip⟩ := hvalue
    exact ⟨b, w, hb, hw, by rw [← hskip, ← hcs]⟩
  generalize hs : readValue (fuel + 1) cs = s at h ⊢
  rw [readValue] at hs
  split at hs
  next =>
    subst hs
    cases h
  next t ht =>
    subst hs
    obtain ⟨hrest, hdraft⟩ := ofQuoted_split h
    obtain ⟨ks, hks, hread⟩ := quotedSpelling_of_read hrest
    rw [hdraft]
    exact ⟨'"' :: ks, .string hks, by rw [ht, hread, List.cons_append]⟩
  next t ht =>
    subst hs
    replace h : (readItems fuel true t).rest = .ok r := h
    obtain _ | fuel := fuel
    · cases h
    simp only [h, brokenAt]
    rcases readItems_split (ih fuel (by omega)) h with ⟨hnone, b', hb', hclose⟩ |
      ⟨p, w, ts, d, ds, hitems, hp, hw, hts, hread⟩
    · rw [hnone]
      exact ⟨_, .noItems hb', by rw [ht, hclose]; simp⟩
    · rw [hitems]
      exact ⟨_, .items hp hw hts, by rw [ht, hread]; simp⟩
  next t ht =>
    subst hs
    replace h : (readMembers fuel true t).rest = .ok r := h
    obtain _ | fuel := fuel
    · cases h
    simp only [h, brokenAt]
    rcases readMembers_split (ih fuel (by omega)) h with ⟨hnone, b', hb', hclose⟩ |
      ⟨p, w, ts, m, ms, hmembers, hp, hw, hts, hread⟩
    · rw [hnone]
      exact ⟨_, .noMembers hb', by rw [ht, hclose]; simp⟩
    · rw [hmembers]
      exact ⟨_, .members hp hw hts, by rw [ht, hread]; simp⟩
  next t ht =>
    subst hs
    obtain ⟨hdraft, hread⟩ := ofWord_split h
    rw [hdraft]
    exact ⟨_, .null, by rw [ht, hread]; rfl⟩
  next t ht =>
    subst hs
    obtain ⟨hdraft, hread⟩ := ofWord_split h
    rw [hdraft]
    exact ⟨_, .yes, by rw [ht, hread]; rfl⟩
  next t ht =>
    subst hs
    obtain ⟨hdraft, hread⟩ := ofWord_split h
    rw [hdraft]
    exact ⟨_, .no, by rw [ht, hread]; rfl⟩
  next c t _ _ _ _ _ _ ht =>
    split at hs
    next =>
      subst hs
      rw [ht]
      exact ofNumber_split h
    next =>
      subst hs
      cases h

theorem passes (fuel : Nat) : Passes fuel := by
  -- all smaller amounts, since a bracket and its first item take two steps
  induction fuel using Nat.strongRecOn with
  | ind fuel ih =>
    refine ⟨passes_value ih, ?_, ?_⟩
    · intro cs r h
      obtain _ | fuel := fuel
      · cases h
      rcases readItems_split (ih fuel (by omega)) h with ⟨hnone, b, hb, hclose⟩ |
        ⟨p, w, ts, d, ds, hitems, ⟨b, b', hb, hb', hp⟩, hw, hts, hread⟩
      · rw [hnone]
        exact ⟨_, .close hb, by rw [hclose]; simp⟩
      · rw [hitems]
        exact ⟨_, .next hb hb' hw hts, by rw [hread, hp]; simp⟩
    · intro cs r h
      obtain _ | fuel := fuel
      · cases h
      rcases readMembers_split (ih fuel (by omega)) h with ⟨hnone, b, hb, hclose⟩ |
        ⟨p, w, ts, m, ms, hmembers, ⟨b, b', hb, hb', hp⟩, hw, hts, hread⟩
      · rw [hnone]
        exact ⟨_, .close hb, by rw [hclose]; simp⟩
      · rw [hmembers]
        exact ⟨_, .next hb hb' hw hts, by rw [hread, hp]; simp⟩

/-- What the reader takes for one value, with blanks around it, is exactly a spelling of it. -/
theorem readText_iff_spelling {cs : List Char} {d : Draft} :
    (∃ b', Blanks b' ∧ readText cs = ⟨d, .ok b'⟩) ↔
      ∃ b w b', Blanks b ∧ Spelling d w ∧ Blanks b' ∧ cs = b ++ (w ++ b') := by
  constructor
  · intro h
    obtain ⟨b', hb', h⟩ := h
    have hrest : (readText cs).rest = .ok b' := by rw [h]
    obtain ⟨b, w, hb, hw, hcs⟩ := (passes _).value hrest
    have hdraft : (readText cs).draft = d := by rw [h]
    rw [readText] at hdraft
    rw [hdraft] at hw
    exact ⟨b, w, b', hb, hw, hb', hcs⟩
  · intro h
    obtain ⟨b, w, b', hb, hw, hb', hcs⟩ := h
    exact ⟨b', hb', by rw [hcs, readText_spelling hb hw hb']⟩

theorem nesting_of_read {s : String} {d : Draft} {b' : List Char} (hb' : Blanks b')
    (h : readText s.toList = ⟨d, .ok b'⟩) : nesting s = d.depth := by
  obtain ⟨b, w, b', hb, hw, hb', hs⟩ := readText_iff_spelling.mp ⟨b', hb', h⟩
  have htext : s = String.ofList (b ++ (w ++ b')) := by rw [← hs, String.ofList_toList]
  rw [htext, nesting_spelling hb hw hb']

/-- The one value in the text is among the spellings, with blanks wherever JSON allows them. -/
def SpelledText (Spells : Draft → Prop) (s : String) : Prop :=
  ∃ b d w b', Blanks b ∧ Spells d ∧ Spelling d w ∧ Blanks b' ∧ s = String.ofList (b ++ (w ++ b'))

theorem spelledText_iff {Spells : Draft → Prop} {s : String} :
    SpelledText Spells s ↔ ∃ d b', Spells d ∧ Blanks b' ∧ readText s.toList = ⟨d, .ok b'⟩ := by
  constructor
  · intro ⟨b, d, w, b', hb, hd, hw, hb', hs⟩
    refine ⟨d, b', hd, hb', ?_⟩
    rw [hs, String.toList_ofList, readText_spelling hb hw hb']
  · intro ⟨d, b', hd, hb', hread⟩
    obtain ⟨b, w, b', hb, hw, hb', hs⟩ := readText_iff_spelling.mp ⟨b', hb', hread⟩
    exact ⟨b, d, w, b', hb, hd, hw, hb', by rw [← hs, String.ofList_toList]⟩

theorem spelledText_compact {Spells : Draft → Prop} {v : Json} (h : Spells v.draft)
    (hv : Integral v) : SpelledText Spells v.compact := by
  refine ⟨[], v.draft, write v, [], blanks_nil, h, spelling_write hv, blanks_nil, ?_⟩
  rw [List.nil_append, List.append_nil, compact]

/-- What is decoded from each spelling is decoded from each text of it that may be read. -/
theorem SpelledText.decodeText {α : Type} {decode : Nat → Draft → Except Error α}
    {Spells : Draft → Prop} {s : String} {x : α} (h : SpelledText Spells s)
    (hnesting : nesting s ≤ nestingLimit)
    (hdecode : ∀ d, Spells d → d.depth ≤ nestingLimit → decode nestingLimit d = .ok x) :
    Json.decodeText decode s = .ok x := by
  obtain ⟨b, d, w, b', hb, hd, hw, hb', rfl⟩ := h
  rw [nesting_spelling hb hw hb'] at hnesting
  rw [decodeText_spelling _ hb hw hb']
  exact hdecode d hd hnesting

end ResourceQuery.Json
