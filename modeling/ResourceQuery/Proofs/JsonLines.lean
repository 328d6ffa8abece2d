import ResourceQuery.Proofs.JsonWriting

namespace ResourceQuery.Json

/-- No number in the value is binary. -/
inductive RealFree : Json → Prop where
  | null : RealFree .null
  | bool (b : Bool) : RealFree (.bool b)
  | integer (n : Int) : RealFree (.number (.integer n))
  | string (s : String) : RealFree (.string s)
  | array {items : List Json} (each : ∀ v ∈ items, RealFree v) : RealFree (.array items)
  | object {members : List (String × Json)} (each : ∀ m ∈ members, RealFree m.2) :
      RealFree (.object members)

/-- The texts of `x` and `y` are told apart in front of all that does not go on with a number. -/
def ToldApart {α : Type} (text : α → List Char) (x y : α) : Prop :=
  ∀ r s, EndsNumber r → EndsNumber s → text x ++ r = text y ++ s → x = y ∧ r = s

theorem writtenInteger_inj {m n : Int} (h : writtenInteger m = writtenInteger n) : m = n := by
  simp only [writtenInteger, Written.mk.injEq, decide_eq_decide, and_true] at h
  obtain ⟨hsign, hdigits⟩ := h
  have hvalue : m.natAbs = n.natAbs := by
    calc m.natAbs = Nat.ofDigitChars 10 (Number.decimalDigits m.natAbs) 0 :=
          Nat.ofDigitChars_ten_toDigits.symm
      _ = Nat.ofDigitChars 10 (Number.decimalDigits n.natAbs) 0 := by rw [hdigits]
      _ = n.natAbs := Nat.ofDigitChars_ten_toDigits
  omega

theorem integers_toldApart (m n : Int) : ToldApart (fun n => (Number.printInt n).toList) m n := by
  intro r s hr hs h
  have hm := (numberSpelling_integer m).read r hr
  have hn := (numberSpelling_integer n).read s hs
  simp only at h
  rw [h, hn] at hm
  simp only [Except.ok.injEq, Prod.mk.injEq] at hm
  exact ⟨(writtenInteger_inj hm.1).symm, hm.2.symm⟩

/-- A quoted text ends at its own closing quote. -/
theorem quote_append_inj {s t : String} {r u : List Char} (h : quote s ++ r = quote t ++ u) :
    s = t ∧ r = u := by
  have hquoted :
      (s.toList.flatMap escape ++ ['"']) ++ r = (t.toList.flatMap escape ++ ['"']) ++ u :=
    (List.cons.inj h).2
  have hs := quotedSpelling_escape s.toList r
  have ht := quotedSpelling_escape t.toList u
  rw [hquoted, ht] at hs
  simp only [QuotedText.mk.injEq, Except.ok.injEq] at hs
  exact ⟨(String.toList_inj.mp hs.1).symm, hs.2.symm⟩

/-- What follows the first text between brackets. -/
def linesBehind (level : Nat) (right : Char) (texts : List (List Char)) : List Char :=
  texts.flatMap (',' :: newLine (level + 1) ++ ·) ++ (newLine level ++ [right])

theorem bracketed_cons (left right : Char) (level : Nat) (t : List Char) (ts : List (List Char)) :
    bracketed left right level (t :: ts) =
      left :: (newLine (level + 1) ++ (t ++ linesBehind level right ts)) := by
  simp [bracketed, joined_cons, linesBehind]

theorem linesBehind_cons (level : Nat) (right : Char) (t : List Char) (ts : List (List Char)) :
    linesBehind level right (t :: ts) =
      ',' :: (newLine (level + 1) ++ (t ++ linesBehind level right ts)) := by
  simp [linesBehind]

theorem linesBehind_endsNumber (level : Nat) (right : Char) (ts : List (List Char))
    (r : List Char) : EndsNumber (linesBehind level right ts ++ r) := by
  cases ts with
  | nil => exact .cons (by decide) _
  | cons t ts =>
    rw [linesBehind_cons]
    exact .cons (by decide) _

section

variable {α : Type} {text : α → List Char} {xs ys : List α}

theorem linesBehind_inj {level : Nat} {right : Char} {r s : List Char}
    (hap : ∀ x ∈ xs, ∀ y ∈ ys, ToldApart text x y)
    (h : linesBehind level right (xs.map text) ++ r = linesBehind level right (ys.map text) ++ s) :
    xs = ys ∧ r = s := by
  induction xs generalizing ys with
  | nil =>
    cases ys with
    | nil => exact ⟨rfl, List.append_cancel_left h⟩
    | cons y ys =>
      rw [List.map_cons, linesBehind_cons] at h
      simp [linesBehind, newLine] at h
  | cons x xs ih =>
    cases ys with
    | nil =>
      rw [List.map_cons, linesBehind_cons] at h
      simp [linesBehind, newLine] at h
    | cons y ys =>
      simp only [List.map_cons, linesBehind_cons, List.cons_append, List.append_assoc,
        List.cons.injEq, true_and, List.append_cancel_left_eq] at h
      obtain ⟨rfl, hrest⟩ := hap x (by simp) y (by simp) _ _
        (linesBehind_endsNumber _ _ _ _) (linesBehind_endsNumber _ _ _ _) h
      obtain ⟨rfl, rfl⟩ := ih (fun x hx y hy => hap x (by simp [hx]) y (by simp [hy])) hrest
      exact ⟨rfl, rfl⟩

/-- A closing bracket is no line end, so the second character tells an empty list from others. -/
theorem bracketed_inj {left right : Char} (hright : right ≠ '\n') {level : Nat} {r s : List Char}
    (hap : ∀ x ∈ xs, ∀ y ∈ ys, ToldApart text x y)
    (h : bracketed left right level (xs.map text) ++ r =
      bracketed left right level (ys.map text) ++ s) : xs = ys ∧ r = s := by
  cases xs with
  | nil =>
    cases ys with
    | nil => exact ⟨rfl, List.append_cancel_left h⟩
    | cons y ys =>
      rw [List.map_cons, bracketed_cons] at h
      simp [bracketed, newLine, hright] at h
  | cons x xs =>
    cases ys with
    | nil =>
      rw [List.map_cons, bracketed_cons] at h
      simp [bracketed, newLine, hright.symm] at h
    | cons y ys =>
      simp only [List.map_cons, bracketed_cons, List.cons_append, List.append_assoc,
        List.cons.injEq, true_and, List.append_cancel_left_eq] at h
      obtain ⟨rfl, hrest⟩ := hap x (by simp) y (by simp) _ _
        (linesBehind_endsNumber _ _ _ _) (linesBehind_endsNumber _ _ _ _) h
      obtain ⟨rfl, rfl⟩ := linesBehind_inj
        (fun x hx y hy => hap x (by simp [hx]) y (by simp [hy])) hrest
      exact ⟨rfl, rfl⟩

end

/-- The text of a member of an object. -/
def memberLines (level : Nat) (m : String × Json) : List Char :=
  quote m.1 ++ ':' :: ' ' :: writeLines level m.2

theorem writeItemLines_eq_map (level : Nat) (vs : List Json) :
    writeItemLines level vs = vs.map (writeLines (level + 1)) := by
  induction vs with
  | nil => rfl
  | cons v vs ih => rw [writeItemLines, List.map_cons, ih]

theorem writeMemberLines_eq_map (level : Nat) (ms : List (String × Json)) :
    writeMemberLines level ms = ms.map (memberLines (level + 1)) := by
  induction ms with
  | nil => rfl
  | cons m ms ih => rw [writeMemberLines, List.map_cons, ih, memberLines]

/-- The kind of a value, numbered. -/
def kind : Json → Nat
  | .null => 0
  | .bool _ => 1
  | .string _ => 2
  | .array _ => 3
  | .object _ => 4
  | .number _ => 5

/-- The kind of the values that begin with a character. -/
def kindOfHead (c : Char) : Nat :=
  if c = 'n' then 0
  else if c = 't' ∨ c = 'f' then 1
  else if c = '"' then 2
  else if c = '[' then 3
  else if c = '\x7b' then 4
  else 5

theorem bracketed_head (left right : Char) (level : Nat) (ts : List (List Char)) :
    ∃ t, bracketed left right level ts = left :: t := by
  cases ts with
  | nil => exact ⟨_, rfl⟩
  | cons t ts => exact ⟨_, bracketed_cons ..⟩

theorem kindOfHead_number {c : Char} (h : c = '-' ∨ c.isDigit) : kindOfHead c = 5 := by
  have hne (d : Char) (hd : ¬ (d = '-' ∨ d.isDigit)) : c ≠ d := by
    rintro rfl
    exact hd h
  have hword : ¬ (c = 't' ∨ c = 'f') := not_or.mpr ⟨hne 't' (by decide), hne 'f' (by decide)⟩
  rw [kindOfHead, if_neg (hne 'n' (by decide)), if_neg hword, if_neg (hne '"' (by decide)),
    if_neg (hne '[' (by decide)), if_neg (hne '\x7b' (by decide))]

theorem writeLines_head {v : Json} (hv : RealFree v) (level : Nat) :
    ∃ c t, writeLines level v = c :: t ∧ kindOfHead c = v.kind := by
  cases hv with
  | null => exact ⟨'n', _, rfl, rfl⟩
  | bool b =>
    cases b with
    | false => exact ⟨'f', _, rfl, rfl⟩
    | true => exact ⟨'t', _, rfl, rfl⟩
  | integer n =>
    obtain ⟨c, t, hct, hc⟩ := (numberSpelling_integer n).head
    exact ⟨c, t, hct, kindOfHead_number hc⟩
  | string s => exact ⟨'"', _, rfl, rfl⟩
  | array each =>
    obtain ⟨t, ht⟩ := bracketed_head '[' ']' level (writeItemLines level _)
    exact ⟨'[', t, ht, rfl⟩
  | object each =>
    obtain ⟨t, ht⟩ := bracketed_head '\x7b' '\x7d' level (writeMemberLines level _)
    exact ⟨'\x7b', t, ht, rfl⟩

theorem kind_eq_of_text {v w : Json} (hv : RealFree v) (hw : RealFree w) {level : Nat}
    {r s : List Char} (h : writeLines level v ++ r = writeLines level w ++ s) :
    v.kind = w.kind := by
  obtain ⟨c, t, hc, hv⟩ := writeLines_head hv level
  obtain ⟨d, u, hd, hw⟩ := writeLines_head hw level
  rw [hc, hd] at h
  rw [← hv, ← hw, (List.cons.inj h).1]

theorem memberLines_toldApart {level : Nat} {m n : String × Json}
    (h : ToldApart (writeLines level) m.2 n.2) : ToldApart (memberLines level) m n := by
  intro r s hr hs hmember
  simp only [memberLines, List.append_assoc] at hmember
  obtain ⟨hkey, hvalue⟩ := quote_append_inj hmember
  simp only [List.cons_append, List.cons.injEq, true_and] at hvalue
  obtain ⟨hvalue, hrest⟩ := h r s hr hs hvalue
  exact ⟨Prod.ext hkey hvalue, hrest⟩

/-- Induction on the first value; the kind of the second is told by its first character. -/
theorem writeLines_toldApart {v w : Json} (hv : RealFree v) (hw : RealFree w) (level : Nat) :
    ToldApart (writeLines level) v w := by
  induction hv generalizing w level with
  | null =>
    intro r s hr hs h
    have hkind := kind_eq_of_text .null hw h
    cases hw with
    | null => exact ⟨rfl, List.append_cancel_left h⟩
    | _ => cases hkind
  | bool b =>
    intro r s hr hs h
    have hkind := kind_eq_of_text (.bool b) hw h
    cases hw with
    | bool c =>
      cases b <;> cases c
      · exact ⟨rfl, List.append_cancel_left h⟩
      · cases h
      · cases h
      · exact ⟨rfl, List.append_cancel_left h⟩
    | _ => cases hkind
  | integer n =>
    intro r s hr hs h
    have hkind := kind_eq_of_text (.integer n) hw h
    cases hw with
    | integer m =>
      obtain ⟨rfl, hrest⟩ := integers_toldApart n m r s hr hs h
      exact ⟨rfl, hrest⟩
    | _ => cases hkind
  | string t =>
    intro r s hr hs h
    have hkind := kind_eq_of_text (.string t) hw h
    cases hw with
    | string u =>
      obtain ⟨rfl, hrest⟩ := quote_append_inj h
      exact ⟨rfl, hrest⟩
    | _ => cases hkind
  | @array items each ih =>
    intro r s hr hs h
    have hkind := kind_eq_of_text (.array each) hw h
    cases hw with
    | @array others hothers =>
      simp only [writeLines, writeItemLines_eq_map] at h
      obtain ⟨rfl, hrest⟩ := bracketed_inj (by decide)
        (fun v hv w hw => ih v hv (hothers w hw) (level + 1)) h
      exact ⟨rfl, hrest⟩
    | _ => cases hkind
  | @object members each ih =>
    intro r s hr hs h
    have hkind := kind_eq_of_text (.object each) hw h
    cases hw with
    | @object others hothers =>
      simp only [writeLines, writeMemberLines_eq_map] at h
      obtain ⟨rfl, hrest⟩ := bracketed_inj (by decide)
        (fun m hm n hn => memberLines_toldApart (ih m hm (hothers n hn) (level + 1))) h
      exact ⟨rfl, hrest⟩
    | _ => cases hkind

theorem pretty_inj {v w : Json} (hv : RealFree v) (hw : RealFree w) (h : v.pretty = w.pretty) :
    v = w := by
  have htext : writeLines 0 v = writeLines 0 w := String.ofList_injective h
  exact (writeLines_toldApart hv hw 0 [] [] nofun nofun (by rw [htext])).1

end ResourceQuery.Json
