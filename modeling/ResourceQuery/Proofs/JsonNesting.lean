import ResourceQuery.Proofs.JsonDepth

namespace ResourceQuery.Json

def isOpening (c : Char) : Bool :=
  c == '[' || c == '\x7b'

def isClosing (c : Char) : Bool :=
  c == ']' || c == '\x7d'

/-- The most containers open at once in the rest of a text, `opened` of them in front of it. The
rest may begin inside of quotes. -/
def nestingFrom : Bool → Nat → List Char → Nat
  | _, opened, [] => opened
  | true, opened, ['\\'] => opened
  | true, opened, '\\' :: _ :: r => nestingFrom true opened r
  | quoted, opened, c :: r =>
    if c = '"' then nestingFrom (!quoted) opened r
    else if quoted then nestingFrom true opened r
    else if isOpening c then nestingFrom false (opened + 1) r
    else if isClosing c then max opened (nestingFrom false (opened - 1) r)
    else nestingFrom false opened r

/-- The most containers that are open at once in a text. -/
def nesting (s : String) : Nat :=
  nestingFrom false 0 s.toList

theorem le_nestingFrom (quoted : Bool) (opened : Nat) (cs : List Char) :
    opened ≤ nestingFrom quoted opened cs := by
  fun_induction nestingFrom quoted opened cs <;> omega

theorem QuotedText.unpaired_rest (q : QuotedText) (lead : Option Nat) :
    (q.unpaired lead).rest = q.rest := by
  cases lead <;> rfl

theorem nestingFrom_quoted {c : Char} (hq : c ≠ '"') (hb : c ≠ '\\') (opened : Nat)
    (r : List Char) : nestingFrom true opened (c :: r) = nestingFrom true opened r := by
  simp [nestingFrom, hq, hb]

theorem nestingFrom_escaped (c : Char) (opened : Nat) (r : List Char) :
    nestingFrom true opened ('\\' :: c :: r) = nestingFrom true opened r := by
  rw [nestingFrom]

theorem ne_of_hexValue {c : Char} {n : Nat} (h : hexValue? c = some n) : c ≠ '"' ∧ c ≠ '\\' := by
  constructor
  all_goals
    intro h
    subst h
    cases h

theorem nestingFrom_hexUnit {a b c d : Char} {n : Nat} (h : hexUnit? a b c d = some n)
    (opened : Nat) (r : List Char) :
    nestingFrom true opened ('\\' :: 'u' :: a :: b :: c :: d :: r) = nestingFrom true opened r := by
  simp only [hexUnit?, Option.bind_eq_bind, Option.bind_eq_some_iff] at h
  obtain ⟨_, ha, _, hb, _, hc, _, hd, -⟩ := h
  have digit {c : Char} {n : Nat} (hc : hexValue? c = some n) (r : List Char) :
      nestingFrom true opened (c :: r) = nestingFrom true opened r :=
    nestingFrom_quoted (ne_of_hexValue hc).1 (ne_of_hexValue hc).2 opened r
  rw [nestingFrom_escaped, digit ha, digit hb, digit hc, digit hd]

/-- No bracket inside of quotes counts. -/
theorem readQuoted_nesting (lead : Option Nat) (opened : Nat) {cs r : List Char}
    (h : (readQuoted lead cs).rest = .ok r) :
    nestingFrom true opened cs = nestingFrom false opened r := by
  fun_induction readQuoted lead cs with
  | case2 lead t =>
    rw [QuotedText.unpaired_rest] at h
    cases h
    rfl
  | case4 a b c d t n first hn _ ih => rw [nestingFrom_hexUnit hn, ih h]
  | case5 a b c d t n first hn _ ih => rw [nestingFrom_hexUnit hn, ih h]
  | case6 a b c d t n hn _ ih => rw [nestingFrom_hexUnit hn, ih h]
  | case7 a b c d t n hn _ _ ih => rw [nestingFrom_hexUnit hn, ih h]
  | case8 a b c d t n hn _ _ ih => rw [nestingFrom_hexUnit hn, ih h]
  | case11 lead c t _ _ e he ih =>
    rw [QuotedText.unpaired_rest] at h
    rw [nestingFrom_escaped, ih h]
  | case14 lead c t hq _ _ hend hnext _ ih =>
    rw [QuotedText.unpaired_rest] at h
    have hb : c ≠ '\\' := by
      intro hb
      cases t with
      | nil => exact hend hb rfl
      | cons d t => exact hnext d t hb rfl
    rw [nestingFrom_quoted hq hb, ih h]
  | case12 => rw [QuotedText.unpaired_rest] at h; cases h
  | case13 => rw [QuotedText.unpaired_rest] at h; cases h
  | _ => cases h

/-- Neither a bracket nor a quote. -/
def isPlain (c : Char) : Bool :=
  c != '"' && !isOpening c && !isClosing c

theorem nestingFrom_plain {c : Char} (hc : isPlain c = true) (opened : Nat) (r : List Char) :
    nestingFrom false opened (c :: r) = nestingFrom false opened r := by
  simp only [isPlain, Bool.and_eq_true, bne_iff_ne, Bool.not_eq_true'] at hc
  obtain ⟨⟨hq, hopening⟩, hclosing⟩ := hc
  simp [nestingFrom, hq, hopening, hclosing]

theorem isPlain_of_isDigit {c : Char} (hc : c.isDigit = true) : isPlain c = true := by
  have hne (d : Char) (hd : d.isDigit = false) : c ≠ d := by
    intro h
    subst h
    simp [hc] at hd
  simp [isPlain, isOpening, isClosing, hne '"' rfl, hne '[' rfl, hne '\x7b' rfl, hne ']' rfl,
    hne '\x7d' rfl]

theorem nestingFrom_dropDigits (opened : Nat) (cs : List Char) :
    nestingFrom false opened (cs.dropWhile Char.isDigit) = nestingFrom false opened cs := by
  induction cs with
  | nil => rfl
  | cons c cs ih =>
    by_cases hc : c.isDigit = true
    · rw [List.dropWhile_cons_of_pos hc, nestingFrom_plain (isPlain_of_isDigit hc), ih]
    · rw [List.dropWhile_cons_of_neg hc]

theorem readDigits_nesting (opened : Nat) {cs ds r : List Char} (h : readDigits cs = .ok (ds, r)) :
    nestingFrom false opened cs = nestingFrom false opened r := by
  unfold readDigits at h
  simp only at h
  split at h
  · cases h
  · cases h
    rw [nestingFrom_dropDigits]

theorem readWhole_nesting (opened : Nat) {cs ds r : List Char} (h : readWhole cs = .ok (ds, r)) :
    nestingFrom false opened cs = nestingFrom false opened r := by
  obtain ⟨⟨es, t⟩, hread, h⟩ := bind_ok_iff.mp h
  simp only at h
  split at h
  · cases h
  · cases h
    exact readDigits_nesting opened hread

theorem readFraction_nesting (opened : Nat) {cs r : List Char} {fraction : Option (List Char)}
    (h : readFraction cs = .ok (fraction, r)) :
    nestingFrom false opened cs = nestingFrom false opened r := by
  unfold readFraction at h
  split at h
  · obtain ⟨⟨ds, t⟩, hread, h⟩ := bind_ok_iff.mp h
    cases h
    rw [nestingFrom_plain rfl, readDigits_nesting opened hread]
  · cases h
    rfl

theorem takeSign_nesting (opened : Nat) (cs : List Char) :
    nestingFrom false opened (Number.takeSign cs).2 = nestingFrom false opened cs := by
  unfold Number.takeSign
  split
  · rw [nestingFrom_plain rfl]
  · rw [nestingFrom_plain rfl]
  · rfl

theorem readExponent_nesting (opened : Nat) {cs r : List Char}
    {exponent : Option (Bool × List Char)} (h : readExponent cs = .ok (exponent, r)) :
    nestingFrom false opened cs = nestingFrom false opened r := by
  unfold readExponent at h
  split at h
  next c t =>
    split at h
    next hc =>
      obtain ⟨⟨ds, u⟩, hread, h⟩ := bind_ok_iff.mp h
      cases h
      have hplain : isPlain c = true := by
        rcases hc with rfl | rfl <;> rfl
      rw [nestingFrom_plain hplain, ← takeSign_nesting]
      exact readDigits_nesting opened hread
    next =>
      cases h
      rfl
  next =>
    cases h
    rfl

/-- No part of a number is a bracket. -/
theorem readNumber_nesting (opened : Nat) {cs r : List Char} {w : Written}
    (h : readNumber cs = .ok (w, r)) :
    nestingFrom false opened cs = nestingFrom false opened r := by
  unfold readNumber at h
  split at h
  next _ negative t hsign =>
    obtain ⟨⟨whole, u⟩, hwhole, h⟩ := bind_ok_iff.mp h
    obtain ⟨⟨fraction, v⟩, hfraction, h⟩ := bind_ok_iff.mp h
    obtain ⟨⟨exponent, x⟩, hexponent, h⟩ := bind_ok_iff.mp h
    cases h
    have hminus : nestingFrom false opened cs = nestingFrom false opened t := by
      split at hsign
      · cases hsign
        rw [nestingFrom_plain rfl]
      · cases hsign
        rfl
    rw [hminus, readWhole_nesting opened hwhole, readFraction_nesting opened hfraction,
      readExponent_nesting opened hexponent]

theorem nestingFrom_blanks {b : List Char} (hb : Blanks b) (opened : Nat) (r : List Char) :
    nestingFrom false opened (b ++ r) = nestingFrom false opened r := by
  induction b with
  | nil => rfl
  | cons c b ih =>
    have hc := hb c (by simp)
    simp only [isSpace, Bool.or_eq_true, beq_iff_eq] at hc
    have hplain : isPlain c = true := by
      rcases hc with ((rfl | rfl) | rfl) | rfl <;> rfl
    rw [List.cons_append, nestingFrom_plain hplain, ih fun d hd => hb d (by simp [hd])]

theorem nestingFrom_opening {c : Char} (hc : isOpening c = true) (opened : Nat) (r : List Char) :
    nestingFrom false opened (c :: r) = nestingFrom false (opened + 1) r := by
  have hq : c ≠ '"' := by
    intro h
    subst h
    cases hc
  simp [nestingFrom, hq, hc]

theorem nestingFrom_closing {c : Char} (hc : isClosing c = true) (opened : Nat) (r : List Char) :
    nestingFrom false (opened + 1) (c :: r) = max (opened + 1) (nestingFrom false opened r) := by
  simp only [isClosing, Bool.or_eq_true, beq_iff_eq] at hc
  rcases hc with rfl | rfl <;> simp [nestingFrom, isOpening, isClosing]

theorem nestingFrom_quote {text : Except SyntaxError (List Char)} {cs : List Char}
    (h : QuotedSpelling text cs) (opened : Nat) (r : List Char) :
    nestingFrom false opened ('"' :: (cs ++ r)) = nestingFrom false opened r := by
  have hend : (readQuoted none (cs ++ r)).rest = .ok r := by rw [h r]
  rw [← readQuoted_nesting none opened hend]
  simp [nestingFrom]

mutual

/-- Behind a spelling the text goes on with the containers that were open in front of it. -/
theorem Spelling.nestingFrom_append {d : Draft} {cs : List Char} (h : Spelling d cs) (opened : Nat)
    {r : List Char} (hr : EndsNumber r) :
    nestingFrom false opened (cs ++ r) = max (opened + d.depth) (nestingFrom false opened r) := by
  have hflat : nestingFrom false opened r = max (opened + 0) (nestingFrom false opened r) := by
    have hle := le_nestingFrom false opened r
    omega
  cases h with
  | null => simpa [nestingFrom, isOpening, isClosing, Draft.depth] using hflat
  | yes => simpa [nestingFrom, isOpening, isClosing, Draft.depth] using hflat
  | no => simpa [nestingFrom, isOpening, isClosing, Draft.depth] using hflat
  | number h =>
    rw [readNumber_nesting opened (h.read r hr)]
    simpa [Draft.depth] using hflat
  | string h =>
    rw [List.cons_append, nestingFrom_quote h]
    simpa [Draft.depth] using hflat
  | noItems hb =>
    rw [List.cons_append, nestingFrom_opening rfl, List.append_assoc, nestingFrom_blanks hb,
      List.singleton_append, nestingFrom_closing rfl]
    rfl
  | @items b cs ts d ds hb hd ht =>
    rw [List.cons_append, nestingFrom_opening rfl, List.append_assoc, nestingFrom_blanks hb,
      List.append_assoc, hd.nestingFrom_append (opened + 1) (ht.endsNumber r),
      ht.nestingFrom_append opened r, Draft.depth, itemsDepth]
    omega
  | noMembers hb =>
    rw [List.cons_append, nestingFrom_opening rfl, List.append_assoc, nestingFrom_blanks hb,
      List.singleton_append, nestingFrom_closing rfl]
    rfl
  | @members b cs ts m ms hb hm ht =>
    rw [List.cons_append, nestingFrom_opening rfl, List.append_assoc, nestingFrom_blanks hb,
      List.append_assoc, hm.nestingFrom_append (opened + 1) (ht.endsNumber r),
      ht.nestingFrom_append opened r, Draft.depth, membersDepth]
    omega

theorem MoreItems.nestingFrom_append {ds : List Draft} {ts : List Char} (h : MoreItems ds ts)
    (opened : Nat) (r : List Char) :
    nestingFrom false (opened + 1) (ts ++ r) =
      max (opened + 1 + itemsDepth ds) (nestingFrom false opened r) := by
  cases h with
  | close hb =>
    rw [List.append_assoc, nestingFrom_blanks hb, List.singleton_append, nestingFrom_closing rfl]
    rfl
  | @next b b' cs ts d ds hb hb' hd ht =>
    rw [List.append_assoc, nestingFrom_blanks hb, List.cons_append, nestingFrom_plain rfl,
      List.append_assoc, nestingFrom_blanks hb', List.append_assoc,
      hd.nestingFrom_append (opened + 1) (ht.endsNumber r), ht.nestingFrom_append opened r,
      itemsDepth]
    omega

theorem MemberSpelling.nestingFrom_append {m : Except SyntaxError String × Draft} {cs : List Char}
    (h : MemberSpelling m cs) (opened : Nat) {r : List Char} (hr : EndsNumber r) :
    nestingFrom false opened (cs ++ r) = max (opened + m.2.depth) (nestingFrom false opened r) := by
  cases h with
  | @mk key ks b b' cs d hk hb hb' hd =>
    rw [List.cons_append, List.append_assoc, nestingFrom_quote hk, List.append_assoc,
      nestingFrom_blanks hb, List.cons_append, nestingFrom_plain rfl, List.append_assoc,
      nestingFrom_blanks hb', hd.nestingFrom_append opened hr]

theorem MoreMembers.nestingFrom_append {ms : List (Except SyntaxError String × Draft)}
    {ts : List Char} (h : MoreMembers ms ts) (opened : Nat) (r : List Char) :
    nestingFrom false (opened + 1) (ts ++ r) =
      max (opened + 1 + membersDepth ms) (nestingFrom false opened r) := by
  cases h with
  | close hb =>
    rw [List.append_assoc, nestingFrom_blanks hb, List.singleton_append, nestingFrom_closing rfl]
    rfl
  | @next b b' cs ts m ms hb hb' hm ht =>
    rw [List.append_assoc, nestingFrom_blanks hb, List.cons_append, nestingFrom_plain rfl,
      List.append_assoc, nestingFrom_blanks hb', List.append_assoc,
      hm.nestingFrom_append (opened + 1) (ht.endsNumber r), ht.nestingFrom_append opened r,
      membersDepth]
    omega

end

/-- A text of one value nests as deeply as the value that it spells. -/
theorem nesting_spelling {d : Draft} {b cs b' : List Char} (hb : Blanks b) (h : Spelling d cs)
    (hb' : Blanks b') : nesting (String.ofList (b ++ (cs ++ b'))) = d.depth := by
  have hend : EndsNumber b' := by
    simpa using hb'.endsNumber (r := []) nofun
  have hrest : nestingFrom false 0 b' = 0 := by
    rw [← List.append_nil b', nestingFrom_blanks hb', nestingFrom]
  rw [nesting, String.toList_ofList, nestingFrom_blanks hb, h.nestingFrom_append 0 hend, hrest]
  omega

theorem nesting_compact {v : Json} (h : Integral v) : nesting v.compact = v.depth := by
  have htext := nesting_spelling blanks_nil (spelling_write h) blanks_nil
  simpa [compact, depth] using htext

end ResourceQuery.Json
