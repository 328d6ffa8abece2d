import ResourceQuery.Proofs.TimeParts

namespace ResourceQuery.Time

open Json (EndsDigits EndsWhole)

/-- `r` ends the text, and a digit stands in front of it. -/
def FollowsDigit (r cs : List Char) : Prop :=
  ∃ front c, cs = front ++ c :: r ∧ c.isDigit = true

theorem FollowsDigit.suffix {r cs : List Char} (h : FollowsDigit r cs) : r <:+ cs := by
  obtain ⟨front, c, rfl, -⟩ := h
  exact ⟨front ++ [c], by simp⟩

theorem FollowsDigit.of_suffix {s r cs : List Char} (h : FollowsDigit s r) (hr : r <:+ cs) :
    FollowsDigit s cs := by
  obtain ⟨front, c, rfl, hc⟩ := h
  obtain ⟨start, rfl⟩ := hr
  exact ⟨start ++ front, c, by simp, hc⟩

theorem followsDigit_append {ds : List Char} (hne : ds ≠ []) (hds : ∀ c ∈ ds, c.isDigit = true)
    (r : List Char) : FollowsDigit r (ds ++ r) := by
  refine ⟨ds.dropLast, ds.getLast hne, ?_, hds _ (List.getLast_mem hne)⟩
  rw [← List.singleton_append, ← List.append_assoc, List.dropLast_append_getLast]

theorem number_follows {least most n : Nat} {cs r : List Char} (hleast : 0 < least)
    (h : number? least most cs = some (n, r)) : FollowsDigit r cs := by
  obtain ⟨w, ds, rfl, hds, hle, -⟩ := number_split h
  exact followsDigit_append (hds.ne_nil (Nat.lt_of_lt_of_le hleast hle)) hds.digits r

theorem trimStart_suffix (cs : List Char) : Text.trimStart cs <:+ cs :=
  List.dropWhile_suffix _

theorem literal_suffix {c : Char} {cs r : List Char} (h : literal? c cs = some r) : r <:+ cs := by
  rw [literal_iff.mp h]
  exact List.suffix_cons c r

theorem ranged_follows {least most low high n : Nat} {cs r : List Char} (hleast : 0 < least)
    (h : ranged? least most low high cs = some (n, r)) : FollowsDigit r cs := by
  unfold ranged? at h
  split at h
  next m r' hnumber =>
    cases (Option.ite_none_right_eq_some.mp h).2
    exact number_follows hleast hnumber
  next => cases h

theorem loosePart_follows {low high n : Nat} {cs r : List Char}
    (h : loosePart? low high cs = some (n, r)) : FollowsDigit r cs :=
  (ranged_follows Nat.zero_lt_one h).of_suffix (trimStart_suffix cs)

theorem looseYear_follows {y : Int} {cs r : List Char} (h : looseYear? cs = some (y, r)) :
    FollowsDigit r cs := by
  refine FollowsDigit.of_suffix ?_ (trimStart_suffix cs)
  unfold looseYear? at h
  split at h <;> obtain ⟨⟨n, r'⟩, hnumber, hpair⟩ := Option.map_eq_some_iff.mp h <;> cases hpair
  next s heq =>
    rw [heq]
    exact (number_follows Nat.zero_lt_one hnumber).of_suffix (List.suffix_cons _ _)
  next s heq =>
    rw [heq]
    exact (number_follows Nat.zero_lt_one hnumber).of_suffix (List.suffix_cons _ _)
  next => exact number_follows Nat.zero_lt_one hnumber

theorem looseDate_follows {d : Date} {cs r : List Char} (h : looseDate? cs = some (d, r)) :
    FollowsDigit r cs := by
  simp only [looseDate?, bind, Option.bind_eq_some_iff] at h
  obtain ⟨⟨y, s⟩, hy, _, hdash, ⟨m, _⟩, hm, _, hdash', ⟨day, _⟩, hd, h⟩ := h
  cases h
  refine (loosePart_follows hd).of_suffix ?_
  calc _ <:+ _ := literal_suffix hdash'
    _ <:+ _ := (loosePart_follows hm).suffix
    _ <:+ _ := literal_suffix hdash
    _ <:+ cs := (looseYear_follows hy).suffix

theorem looseMinutes_follows {h m : Nat} {cs r : List Char}
    (hread : looseMinutes? cs = some (h, m, r)) : FollowsDigit r cs := by
  simp only [looseMinutes?, bind, Option.bind_eq_some_iff] at hread
  obtain ⟨⟨hour, _⟩, hh, _, hcolon, ⟨minute, _⟩, hm, hread⟩ := hread
  cases hread
  exact (loosePart_follows hm).of_suffix
    ((literal_suffix hcolon).trans (loosePart_follows hh).suffix)

theorem fraction_follows {n : Nat} {cs r : List Char} (h : fraction? cs = some (n, r)) :
    r = cs ∨ FollowsDigit r cs := by
  obtain ⟨fs, rfl, hfs⟩ := fraction_split h
  cases hfs with
  | none => exact .inl rfl
  | digits hne hds =>
    exact .inr ((followsDigit_append hne hds r).of_suffix (List.suffix_cons _ _))

theorem take_suffix {sep : Separator} {cs r : List Char} (h : sep.take? cs = some r) :
    r <:+ cs := by
  cases sep with
  | letter => exact literal_suffix h
  | blanks =>
    cases h
    exact trimStart_suffix cs

theorem spellZulu_of_digit {cs : List Char} (h : FollowsDigit [] cs) : spellZulu cs = cs := by
  obtain ⟨front, c, rfl, hc⟩ := h
  have hZ : ¬ (c = 'Z' ∨ c = 'z') := by
    rintro (rfl | rfl) <;> simp at hc
  rw [spellZulu, List.getLast?_concat]
  simp only [hZ, if_false]

theorem spellZulu_zulu (front : List Char) {c : Char} (h : c = 'Z' ∨ c = 'z') :
    spellZulu (front ++ [c]) = front ++ "+0000".toList := by
  rw [spellZulu, List.getLast?_concat]
  simp only [h, if_true, List.dropLast_concat]

theorem sign_split {west : Bool} {cs r : List Char} (h : sign? cs = some (west, r)) :
    ∃ c, cs = c :: r ∧ (c = '+' ∨ c = '-' ∨ c = '\u2212') := by
  cases cs with
  | nil => cases h
  | cons c cs =>
    rw [sign?] at h
    split at h
    next hc =>
      cases h
      exact ⟨c, rfl, .inl hc⟩
    next =>
      obtain ⟨hc, h⟩ := Option.ite_none_right_eq_some.mp h
      cases h
      exact ⟨c, rfl, .inr hc⟩

theorem endsWhole_cons {c : Char} (hc : ¬ (c.isDigit ∨ c = '.')) (r : List Char) :
    EndsWhole (c :: r) := by
  intro d t h
  cases h
  exact hc

theorem endsWhole_sign {c : Char} (hc : c = '+' ∨ c = '-' ∨ c = '\u2212') (r : List Char) :
    EndsWhole (c :: r) := by
  apply endsWhole_cons
  rcases hc with rfl | rfl | rfl <;> decide

/-- Behind an offset stands no digit of the time, and a closing `Z` is spelled as an offset. -/
theorem offset_spelled {z : List Char} {offset : Int} (h : strictOffset? z = some (offset, [])) :
    EndsWhole z ∧
      ∃ z', z' ≠ [] ∧ EndsWhole z' ∧ ∀ front, spellZulu (front ++ z) = front ++ z' := by
  have hplus : EndsWhole "+0000".toList := endsWhole_sign (.inl rfl) _
  unfold strictOffset? at h
  split at h
  next r =>
    cases h
    exact ⟨endsWhole_cons (by decide) [], _, by decide, hplus, fun front =>
      spellZulu_zulu front (.inl rfl)⟩
  next r =>
    cases h
    exact ⟨endsWhole_cons (by decide) [], _, by decide, hplus, fun front =>
      spellZulu_zulu front (.inr rfl)⟩
  next =>
    simp only [bind, Option.bind_eq_some_iff] at h
    obtain ⟨⟨west, _⟩, hsign, ⟨hours, _⟩, hh, _, hcolon, ⟨minutes, _⟩, hm, h⟩ := h
    cases h
    have hdigit : FollowsDigit [] z := by
      refine (ranged_follows (by decide) hm).of_suffix ?_
      obtain ⟨c, rfl, -⟩ := sign_split hsign
      exact (literal_suffix hcolon).trans
        ((ranged_follows (by decide) hh).suffix.trans (List.suffix_cons _ _))
    obtain ⟨c, rfl, hc⟩ := sign_split hsign
    exact ⟨endsWhole_sign hc _, _, by simp, endsWhole_sign hc _, fun front =>
      spellZulu_of_digit (hdigit.of_suffix (List.suffix_append front _))⟩

/-- The forms, by what they read: all of RFC 3339; time to the minute and an offset; time to the
second or to the minute without one; a date alone. -/
inductive Layout where
  | full
  | offset (sep : Separator)
  | second (sep : Separator)
  | minute (sep : Separator)
  | day
  deriving DecidableEq

def Layout.all : List Layout :=
  [full, offset .letter, offset .blanks, second .letter, second .blanks, minute .letter,
   minute .blanks, day]

def Layout.read : Layout → List Char → Option Instant
  | full => rfc3339?
  | offset sep => fun cs => minuteWithOffset? sep (spellZulu cs)
  | second sep => secondInUtc? sep
  | minute sep => minuteInUtc? sep
  | day => midnight?

theorem forms_eq : forms = Layout.all.map Layout.read :=
  rfl

/-- What stands behind the minutes of a time. -/
def Separator.behind? (sep : Separator) (cs : List Char) : Option (List Char) := do
  let r ← sep.take? cs
  let (_, _, r) ← looseMinutes? r
  some r

/-- Two digits of seconds at most, perhaps a fraction, and nothing behind them. -/
def endsWithSeconds (cs : List Char) : Bool :=
  match (loosePart? 0 99 cs).bind fun p => fraction? p.2 with
  | some (_, r) => r.isEmpty
  | none => false

/-- The layout that fits what stands behind the minutes. -/
def layoutBehindMinutes (sep : Separator) : List Char → Layout
  | [] => .minute sep
  | ':' :: r => if endsWithSeconds r then .second sep else .full
  | _ => .offset sep

/-- The layout that fits what stands behind the date. -/
def layoutBehindDate? (cs : List Char) : Option Layout :=
  if cs = [] then some .day
  else if cs.head? = some 't' then some .full
  else
    (Separator.letter.behind? cs).map (layoutBehindMinutes .letter) <|>
      (Separator.blanks.behind? cs).map (layoutBehindMinutes .blanks)

/-- The one layout that fits a text, if any does. -/
def layout? (cs : List Char) : Option Layout := do
  let (_, r) ← looseDate? (spellZulu cs)
  layoutBehindDate? r

theorem looseMinutes_head {cs : List Char} {p : Nat × Nat × List Char}
    (h : looseMinutes? cs = some p) : ∃ c t, Text.trimStart cs = c :: t ∧ c.isDigit = true := by
  simp only [looseMinutes?, bind, Option.bind_eq_some_iff] at h
  obtain ⟨⟨hour, r⟩, hh, -⟩ := h
  unfold loosePart? ranged? at hh
  split at hh
  next n r' hnumber =>
    obtain ⟨w, ds, hcs, hds, hpos, -⟩ := number_split hnumber
    obtain ⟨c, ds, rfl⟩ := List.exists_cons_of_ne_nil (hds.ne_nil hpos)
    exact ⟨c, ds ++ r', hcs, hds.digits c (by simp)⟩
  next => cases hh

theorem blanks_behind_none {c : Char} (hdigit : ¬ c.isDigit) (hblank : Text.isBlank c = false)
    (t : List Char) : Separator.blanks.behind? (c :: t) = none := by
  have htrim : Text.trimStart (c :: t) = c :: t := by
    rw [Text.trimStart, List.dropWhile_cons_of_neg (by simp [hblank])]
  rw [Option.eq_none_iff_forall_ne_some]
  intro r h
  simp only [Separator.behind?, Separator.take?, htrim, bind, Option.bind_some,
    Option.bind_eq_some_iff] at h
  obtain ⟨p, hp, -⟩ := h
  obtain ⟨d, s, heq, hd⟩ := looseMinutes_head hp
  rw [htrim] at heq
  cases heq
  exact hdigit hd

/-- The letter is no blank, so that only one of the separators fits. -/
theorem layout_behind {sep : Separator} {cs r : List Char} (h : sep.behind? cs = some r) :
    layoutBehindDate? cs = some (layoutBehindMinutes sep r) := by
  cases sep with
  | letter =>
    have hcs : ∃ t, cs = 'T' :: t := by
      simp only [Separator.behind?, bind, Option.bind_eq_some_iff] at h
      obtain ⟨t, ht, -⟩ := h
      exact ⟨t, literal_iff.mp ht⟩
    obtain ⟨t, rfl⟩ := hcs
    simp [layoutBehindDate?, h]
  | blanks =>
    have hnil : cs ≠ [] := by
      rintro rfl
      cases h
    have ht : cs.head? ≠ some 't' := by
      intro ht
      obtain ⟨t, rfl⟩ : ∃ t, cs = 't' :: t := by
        cases cs with
        | nil => cases ht
        | cons c t =>
          cases ht
          exact ⟨t, rfl⟩
      rw [blanks_behind_none (by decide) (by decide)] at h
      cases h
    have hT : Separator.letter.behind? cs = none := by
      rw [Option.eq_none_iff_forall_ne_some]
      intro s hs
      simp only [Separator.behind?, bind, Option.bind_eq_some_iff] at hs
      obtain ⟨t, htake, -⟩ := hs
      rw [literal_iff.mp htake, blanks_behind_none (by decide) (by decide)] at h
      cases h
    simp [layoutBehindDate?, hnil, ht, hT, h]

theorem loosePart_wider {low high high' : Nat} {cs : List Char} {p : Nat × List Char}
    (hle : high ≤ high') (h : loosePart? low high cs = some p) : loosePart? low high' cs = some p := by
  unfold loosePart? ranged? at h ⊢
  cases hnumber : number? 1 2 (Text.trimStart cs) with
  | none => simp [hnumber] at h
  | some q =>
    simp only [hnumber, Option.ite_none_right_eq_some] at h ⊢
    exact ⟨⟨h.1.1, Nat.le_trans h.1.2 hle⟩, h.2⟩

theorem endsWithSeconds_of_read {cs r : List Char} {s n : Nat}
    (hs : loosePart? 0 60 cs = some (s, r)) (hf : fraction? r = some (n, [])) :
    endsWithSeconds cs = true := by
  simp [endsWithSeconds, loosePart_wider (by decide : 60 ≤ 99) hs, hf]

theorem endsWithSeconds_iff {s n : Nat} {ss fs z : List Char} (hs : Digits 2 s ss)
    (hf : FractionText n fs) (hz : EndsWhole z) :
    endsWithSeconds (ss ++ (fs ++ z)) = true ↔ z = [] := by
  have hlt : s ≤ 99 := Nat.le_of_lt_succ hs.lt
  have hsecond : loosePart? 0 99 (ss ++ (fs ++ z)) = some (s, fs ++ z) :=
    (loosePart_iff hs).mpr ⟨⟨Nat.zero_le s, hlt⟩, rfl⟩
  have hfraction : fraction? (fs ++ z) = some (n, z) := (fraction_iff hf hz).mpr rfl
  simp [endsWithSeconds, hsecond, hfraction]

/-- The character that stands for a separator where the text has its usual width. -/
def Separator.char : Separator → Char
  | letter => 'T'
  | blanks => ' '

theorem MinutesText.trimStart {h m : Nat} {ks : List Char} (hk : MinutesText h m ks)
    (r : List Char) : Text.trimStart (ks ++ r) = ks ++ r := by
  obtain ⟨hh, hm⟩ := hk
  rw [List.append_assoc]
  exact trimStart_digits hh (by decide)

theorem take_char (sep : Separator) {h m : Nat} {ks : List Char} (hk : MinutesText h m ks)
    (r : List Char) : sep.take? (sep.char :: (ks ++ r)) = some (ks ++ r) := by
  cases sep with
  | letter => rw [Separator.take?, Separator.char, literal_iff]
  | blanks =>
    have hspace : Text.trimStart (' ' :: (ks ++ r)) = Text.trimStart (ks ++ r) := by
      rw [Text.trimStart, List.dropWhile_cons_of_pos (by decide), Text.trimStart]
    rw [Separator.take?, Separator.char, hspace, hk.trimStart]

theorem behind_iff (sep : Separator) {h m : Nat} {ks r s : List Char} (hk : MinutesText h m ks) :
    sep.behind? (sep.char :: (ks ++ r)) = some s ↔ h ≤ 23 ∧ m ≤ 59 ∧ s = r := by
  simp only [Separator.behind?, take_char sep hk, bind, Option.bind_some, Option.bind_eq_some_iff,
    looseMinutes_iff hk, and_assoc, exists_and_left, exists_eq_left, Option.some.injEq, @eq_comm _ s]

theorem layoutBehindDate_iff (sep : Separator) {h m : Nat} {ks r : List Char} {l : Layout}
    (hk : MinutesText h m ks) :
    layoutBehindDate? (sep.char :: (ks ++ r)) = some l ↔
      h ≤ 23 ∧ m ≤ 59 ∧ l = layoutBehindMinutes sep r := by
  by_cases hrange : h ≤ 23 ∧ m ≤ 59
  · have hbehind := (behind_iff sep (r := r) hk).mpr ⟨hrange.1, hrange.2, rfl⟩
    rw [layout_behind hbehind, Option.some.injEq, eq_comm]
    simp [hrange]
  · have hbehind : sep.behind? (sep.char :: (ks ++ r)) = none := by
      rw [Option.eq_none_iff_forall_ne_some]
      intro s hs
      obtain ⟨hh, hm, -⟩ := (behind_iff sep hk).mp hs
      exact hrange ⟨hh, hm⟩
    have hnone : layoutBehindDate? (sep.char :: (ks ++ r)) = none := by
      cases sep with
      | letter =>
        have hblanks : Separator.blanks.behind? ('T' :: (ks ++ r)) = none :=
          blanks_behind_none (by decide) (by decide) _
        simp_all [layoutBehindDate?, Separator.char]
      | blanks =>
        have hletter : Separator.letter.behind? (' ' :: (ks ++ r)) = none := rfl
        simp_all [layoutBehindDate?, Separator.char]
    rw [hnone]
    simp only [reduceCtorEq, false_iff]
    exact fun h => hrange ⟨h.1, h.2.1⟩

/-- Something behind the seconds leaves only RFC 3339. -/
theorem layoutBehindDate_full {sep : Char} {c : Clock} {ks ss fs z : List Char} {l : Layout}
    (hsep : IsSeparator sep) (hk : MinutesText c.hour c.minute ks) (hs : Digits 2 c.second ss)
    (hf : FractionText c.nanos fs) (hz : EndsWhole z) (hne : z ≠ []) :
    layoutBehindDate? (sep :: (ks ++ ':' :: (ss ++ (fs ++ z)))) = some l ↔
      (sep = 't' ∨ c.hour ≤ 23 ∧ c.minute ≤ 59) ∧ l = .full := by
  have hmore : endsWithSeconds (ss ++ (fs ++ z)) = false := by
    rw [← Bool.not_eq_true, endsWithSeconds_iff hs hf hz]
    exact hne
  have hfull (s : Separator) : layoutBehindMinutes s (':' :: (ss ++ (fs ++ z))) = .full := by
    simp [layoutBehindMinutes, hmore]
  rcases hsep with rfl | rfl | rfl
  · have h := layoutBehindDate_iff .letter (r := ':' :: (ss ++ (fs ++ z))) (l := l) hk
    rw [hfull] at h
    simpa [Separator.char, and_assoc] using h
  · simp [layoutBehindDate?, eq_comm]
  · have h := layoutBehindDate_iff .blanks (r := ':' :: (ss ++ (fs ++ z))) (l := l) hk
    rw [hfull] at h
    simpa [Separator.char, and_assoc] using h

theorem layout_iff {cs : List Char} {l : Layout} :
    layout? cs = some l ↔
      ∃ d r, looseDate? (spellZulu cs) = some (d, r) ∧ layoutBehindDate? r = some l := by
  simp only [layout?, bind, Option.bind_eq_some_iff, Prod.exists]

/-- A time of full width with an offset behind it has the layout of RFC 3339 or none. -/
theorem layout_fullText {d : Date} {sep : Char} {c : Clock} {front z z' : List Char} {l : Layout}
    (hfront : FullText d sep c front) (hsep : IsSeparator sep) (hz : EndsWhole z') (hne : z' ≠ [])
    (hzulu : ∀ front, spellZulu (front ++ z) = front ++ z') :
    layout? (front ++ z) = some l ↔
      (1 ≤ d.month ∧ d.month ≤ 12) ∧ (1 ≤ d.day ∧ d.day ≤ 31) ∧
        (sep = 't' ∨ c.hour ≤ 23 ∧ c.minute ≤ 59) ∧ l = .full := by
  obtain ⟨hd, hk, hs, hf⟩ := hfront
  rw [layout_iff, hzulu]
  simp only [List.append_assoc, List.cons_append, looseDate_iff hd, Prod.mk.injEq, and_assoc,
    exists_and_left, exists_eq_left, layoutBehindDate_full hsep hk hs hf hz hne]

theorem layout_of_rfc3339 {cs : List Char} {t : Instant} (h : rfc3339? cs = some t) :
    layout? cs = some .full := by
  obtain ⟨d, sep, c, front, z, offset, rfl, hfront, hsep, hmonth, hday, hhour, hminute, hz⟩ :=
    rfc3339_split h
  obtain ⟨-, z', hne, hz', hzulu⟩ := offset_spelled hz
  exact (layout_fullText hfront hsep hz' hne hzulu).mpr
    ⟨hmonth, hday, .inr ⟨hhour, hminute⟩, rfl⟩

theorem looseOffset_colon (r : List Char) : looseOffset? (':' :: r) = none := by
  rfl

theorem layout_of_minuteWithOffset {sep : Separator} {cs : List Char} {t : Instant}
    (h : minuteWithOffset? sep (spellZulu cs) = some t) : layout? cs = some (.offset sep) := by
  simp only [minuteWithOffset?, bind, Option.bind_eq_some_iff] at h
  obtain ⟨⟨d, r⟩, hd, s, htake, ⟨hour, minute, u⟩, hk, offset, hz, -⟩ := h
  have hbehind : sep.behind? r = some u := by simp [Separator.behind?, htake, hk]
  refine layout_iff.mpr ⟨d, r, hd, (layout_behind hbehind).trans ?_⟩
  -- an offset is neither nothing nor seconds
  cases u with
  | nil => cases hz
  | cons c u =>
    have hcolon : c ≠ ':' := by
      rintro rfl
      rw [looseOffset_colon] at hz
      cases hz
    rw [layoutBehindMinutes]
    · simp
    · exact fun v hv => hcolon (List.cons.inj hv).1

theorem layout_of_secondInUtc {sep : Separator} {cs : List Char} {t : Instant}
    (h : secondInUtc? sep cs = some t) : layout? cs = some (.second sep) := by
  simp only [secondInUtc?, bind, Option.bind_eq_some_iff] at h
  obtain ⟨⟨d, r⟩, hd, s, htake, ⟨hour, minute, _⟩, hk, u, hcolon, ⟨second, v⟩, hs, ⟨n, w⟩, hf, h⟩ := h
  obtain ⟨hempty, -⟩ := Option.ite_none_right_eq_some.mp h
  obtain rfl := List.isEmpty_iff.mp hempty
  obtain rfl := literal_iff.mp hcolon
  have hsuffix : u <:+ cs := calc
    u <:+ _ := List.suffix_cons ':' u
    _ <:+ _ := (looseMinutes_follows hk).suffix
    _ <:+ _ := take_suffix htake
    _ <:+ cs := (looseDate_follows hd).suffix
  have hdigit : FollowsDigit [] cs := by
    rcases fraction_follows hf with rfl | hfollows
    · exact (loosePart_follows hs).of_suffix hsuffix
    · exact hfollows.of_suffix ((loosePart_follows hs).suffix.trans hsuffix)
  have hbehind : sep.behind? r = some (':' :: u) := by simp [Separator.behind?, htake, hk]
  rw [layout_iff, spellZulu_of_digit hdigit]
  refine ⟨d, r, hd, (layout_behind hbehind).trans ?_⟩
  rw [layoutBehindMinutes, if_pos (endsWithSeconds_of_read hs hf)]

theorem layout_of_minuteInUtc {sep : Separator} {cs : List Char} {t : Instant}
    (h : minuteInUtc? sep cs = some t) : layout? cs = some (.minute sep) := by
  simp only [minuteInUtc?, bind, Option.bind_eq_some_iff] at h
  obtain ⟨⟨d, r⟩, hd, s, htake, ⟨hour, minute, u⟩, hk, h⟩ := h
  obtain ⟨hempty, -⟩ := Option.ite_none_right_eq_some.mp h
  obtain rfl := List.isEmpty_iff.mp hempty
  have hdigit : FollowsDigit [] cs :=
    (looseMinutes_follows hk).of_suffix ((take_suffix htake).trans (looseDate_follows hd).suffix)
  have hbehind : sep.behind? r = some [] := by simp [Separator.behind?, htake, hk]
  rw [layout_iff, spellZulu_of_digit hdigit]
  exact ⟨d, r, hd, layout_behind hbehind⟩

theorem layout_of_midnight {cs : List Char} {t : Instant} (h : midnight? cs = some t) :
    layout? cs = some .day := by
  simp only [midnight?, bind, Option.bind_eq_some_iff] at h
  obtain ⟨⟨d, r⟩, hd, h⟩ := h
  obtain ⟨hempty, -⟩ := Option.ite_none_right_eq_some.mp h
  obtain rfl := List.isEmpty_iff.mp hempty
  rw [layout_iff, spellZulu_of_digit (looseDate_follows hd)]
  exact ⟨d, [], hd, rfl⟩

/-- A form reads only texts of its own layout. -/
theorem layout_of_read {l : Layout} {cs : List Char} {t : Instant} (h : l.read cs = some t) :
    layout? cs = some l := by
  cases l with
  | full => exact layout_of_rfc3339 h
  | offset sep => exact layout_of_minuteWithOffset h
  | second sep => exact layout_of_secondInUtc h
  | minute sep => exact layout_of_minuteInUtc h
  | day => exact layout_of_midnight h

/-- The form that reads a text is the one that its layout names. -/
theorem layouts_agree {k l : Layout} {cs : List Char} {t u : Instant} (hk : k.read cs = some t)
    (hl : l.read cs = some u) : k = l :=
  Option.some.inj ((layout_of_read hk).symm.trans (layout_of_read hl))

theorem Layout.mem_all (l : Layout) : l ∈ Layout.all := by
  cases l with
  | full => decide
  | offset sep => cases sep <;> decide
  | second sep => cases sep <;> decide
  | minute sep => cases sep <;> decide
  | day => decide

/-- Two forms that read a text are the same form, with the same reading. -/
theorem forms_agree {f g : List Char → Option Instant} (hf : f ∈ forms) (hg : g ∈ forms)
    {cs : List Char} {t u : Instant} (ht : f cs = some t) (hu : g cs = some u) : t = u := by
  rw [forms_eq] at hf hg
  obtain ⟨k, -, rfl⟩ := List.mem_map.mp hf
  obtain ⟨l, -, rfl⟩ := List.mem_map.mp hg
  obtain rfl := layouts_agree ht hu
  exact Option.some.inj (ht.symm.trans hu)

/-- Among alternatives that agree, the first that answers is as good as any. -/
theorem findSome_iff {fs : List (List Char → Option Instant)} {cs : List Char} {t : Instant}
    (hagree : ∀ f ∈ fs, ∀ g ∈ fs, ∀ t u, f cs = some t → g cs = some u → t = u) :
    fs.findSome? (fun form => form cs) = some t ↔ ∃ form ∈ fs, form cs = some t := by
  constructor
  · exact List.exists_of_findSome?_eq_some
  · intro h
    obtain ⟨form, hform, ht⟩ := h
    have hsome : (fs.findSome? fun form => form cs).isSome = true :=
      List.findSome?_isSome_iff.mpr ⟨form, hform, by simp [ht]⟩
    obtain ⟨u, hu⟩ := Option.isSome_iff_exists.mp hsome
    obtain ⟨first, hfirst, hfirstu⟩ := List.exists_of_findSome?_eq_some hu
    rw [hu, hagree first hfirst form hform u t hfirstu ht]

theorem parse_iff {cs : List Char} {t : Instant} :
    parse? cs = some t ↔ ∃ l : Layout, l.read (Text.trim cs) = some t := by
  rw [parse?, findSome_iff fun f hf g hg t u => forms_agree hf hg, forms_eq]
  constructor
  · intro h
    obtain ⟨form, hform, ht⟩ := h
    obtain ⟨l, -, rfl⟩ := List.mem_map.mp hform
    exact ⟨l, ht⟩
  · intro h
    obtain ⟨l, ht⟩ := h
    exact ⟨l.read, List.mem_map_of_mem l.mem_all, ht⟩

theorem forms_pairwise (cs : List Char) : forms.Pairwise fun f g => f cs = none ∨ g cs = none := by
  have hdistinct : Layout.all.Pairwise (· ≠ ·) := by decide
  rw [forms_eq, List.pairwise_map]
  refine hdistinct.imp fun {k l} hne => ?_
  by_contra hboth
  obtain ⟨hk, hl⟩ := not_or.mp hboth
  obtain ⟨t, ht⟩ := Option.ne_none_iff_exists'.mp hk
  obtain ⟨u, hu⟩ := Option.ne_none_iff_exists'.mp hl
  exact hne (layouts_agree ht hu)

/-- At most one of the forms reads a text, so they may be tried in any order. -/
theorem forms_in_any_order (cs : List Char) :
    forms.Pairwise (fun f g => f (Text.trim cs) = none ∨ g (Text.trim cs) = none) ∧
      ∀ order : List (List Char → Option Instant), order.Perm forms →
        order.findSome? (fun form => form (Text.trim cs)) = parse? cs := by
  refine ⟨forms_pairwise _, fun order horder => Option.ext fun t => ?_⟩
  rw [parse?, findSome_iff fun f hf g hg t u => forms_agree hf hg, findSome_iff]
  · simp only [horder.mem_iff]
  · exact fun f hf g hg t u => forms_agree (horder.mem_iff.mp hf) (horder.mem_iff.mp hg)

/-- A text that every reader of a date begins to read. -/
def spacedMorning : List Char :=
  " 2024-3-1 8:05 Z".toList

theorem spacedMorning_backwards :
    forms.reverse.Perm forms ∧
      forms.reverse.findSome? (fun form => form (Text.trim spacedMorning)) =
        some ⟨1709280300, 0⟩ := by
  have hperm := List.reverse_perm forms
  have hread : parse? spacedMorning = some ⟨1709280300, 0⟩ := by decide +kernel
  exact ⟨hperm, ((forms_in_any_order spacedMorning).2 _ hperm).trans hread⟩

end ResourceQuery.Time
