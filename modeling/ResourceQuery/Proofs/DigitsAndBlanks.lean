import Mathlib
import ResourceQuery.Number.Integer

namespace ResourceQuery.Number

theorem ofDigitChars_ge (cs : List Char) (acc : Nat) : acc ≤ Nat.ofDigitChars 10 cs acc := by
  induction cs generalizing acc with
  | nil => rw [Nat.ofDigitChars_nil]
  | cons c cs ih =>
    rw [Nat.ofDigitChars_cons]
    exact Nat.le_trans (by omega) (ih _)

/-- Digits are read as their number, if it is within the limit. -/
theorem digitsUpTo_eq (limit : Nat) (cs : List Char) :
    digitsUpTo? limit cs =
      if Nat.ofDigitChars 10 cs 0 ≤ limit then some (Nat.ofDigitChars 10 cs 0) else none := by
  suffices hfold : ∀ acc ≤ limit, cs.foldlM (fun n c =>
      let m := 10 * n + digitValue c
      if m ≤ limit then some m else none) acc =
        if Nat.ofDigitChars 10 cs acc ≤ limit then some (Nat.ofDigitChars 10 cs acc) else none from
    hfold 0 (Nat.zero_le _)
  induction cs with
  | nil =>
    intro acc hacc
    simp [hacc]
  | cons c cs ih =>
    intro acc hacc
    have hstep : 10 * acc + (c.toNat - '0'.toNat) = 10 * acc + digitValue c := rfl
    rw [List.foldlM_cons, Nat.ofDigitChars_cons, hstep]
    by_cases hle : 10 * acc + digitValue c ≤ limit
    · simp only [hle, if_true, Option.bind_eq_bind, Option.bind_some]
      exact ih _ hle
    · have hge := ofDigitChars_ge cs (10 * acc + digitValue c)
      simp only [hle, if_false, Option.bind_eq_bind, Option.bind_none]
      rw [if_neg (by omega)]

theorem digitValue_lt {c : Char} (h : c.isDigit = true) : digitValue c < 10 := by
  simp only [Char.isDigit, Bool.and_eq_true, decide_eq_true_eq] at h
  have hle : c.toNat ≤ '9'.toNat := h.2
  have hnine : '9'.toNat = '0'.toNat + 9 := rfl
  rw [digitValue]
  omega

theorem ofDigitChars_lt {cs : List Char} (h : ∀ c ∈ cs, c.isDigit = true) (acc : Nat) :
    Nat.ofDigitChars 10 cs acc < (acc + 1) * 10 ^ cs.length := by
  induction cs generalizing acc with
  | nil => simp
  | cons c cs ih =>
    have hdigit : c.toNat - '0'.toNat < 10 := digitValue_lt (h c (by simp))
    have hrest := ih (fun d hd => h d (by simp [hd])) (10 * acc + (c.toNat - '0'.toNat))
    rw [Nat.ofDigitChars_cons, List.length_cons]
    calc Nat.ofDigitChars 10 cs (10 * acc + (c.toNat - '0'.toNat))
        < (10 * acc + (c.toNat - '0'.toNat) + 1) * 10 ^ cs.length := hrest
      _ ≤ (10 * (acc + 1)) * 10 ^ cs.length := Nat.mul_le_mul_right _ (by omega)
      _ = (acc + 1) * 10 ^ (cs.length + 1) := by ring

end ResourceQuery.Number

namespace ResourceQuery.Text

theorem isBlank_of_isDigit {c : Char} (h : c.isDigit = true) : isBlank c = false := by
  simp only [Char.isDigit, Bool.and_eq_true, decide_eq_true_eq] at h
  have hlow : '0'.toNat ≤ c.toNat := h.1
  have hhigh : c.toNat ≤ '9'.toNat := h.2
  have hzero : '0'.toNat = 48 := rfl
  have hnine : '9'.toNat = 57 := rfl
  simp only [isBlank, Bool.or_eq_false_iff, Bool.and_eq_false_iff, decide_eq_false_iff_not,
    beq_eq_false_iff_ne]
  omega

theorem isBlank_of_isAlpha {c : Char} (h : c.isAlpha = true) : isBlank c = false := by
  simp only [Char.isAlpha, Char.isUpper, Char.isLower, Bool.or_eq_true, Bool.and_eq_true,
    decide_eq_true_eq] at h
  simp only [isBlank, Bool.or_eq_false_iff, Bool.and_eq_false_iff, decide_eq_false_iff_not,
    beq_eq_false_iff_ne]
  rcases h with ⟨hlow, hhigh⟩ | ⟨hlow, hhigh⟩
  · have hlow' : 65 ≤ c.toNat := hlow
    have hhigh' : c.toNat ≤ 90 := hhigh
    omega
  · have hlow' : 97 ≤ c.toNat := hlow
    have hhigh' : c.toNat ≤ 122 := hhigh
    omega

/-- The last character is no blank. -/
def EndsPlain (cs : List Char) : Prop :=
  ∃ front c, cs = front ++ [c] ∧ isBlank c = false

theorem EndsPlain.of_suffix {s cs : List Char} (h : EndsPlain s) (hs : s <:+ cs) : EndsPlain cs := by
  obtain ⟨front, c, rfl, hc⟩ := h
  obtain ⟨start, rfl⟩ := hs
  exact ⟨start ++ front, c, by simp, hc⟩

theorem trim_around {before cs after : List Char} (hbefore : ∀ c ∈ before, isBlank c = true)
    (hafter : ∀ c ∈ after, isBlank c = true) (hstart : ∀ r, trimStart (cs ++ r) = cs ++ r)
    (hend : EndsPlain cs) : trim (before ++ (cs ++ after)) = cs := by
  have hfront : trimStart (before ++ (cs ++ after)) = cs ++ after := by
    rw [trimStart, List.dropWhile_append_of_pos hbefore]
    exact hstart after
  obtain ⟨front, c, rfl, hc⟩ := hend
  have hback : ∀ d ∈ after.reverse, isBlank d = true := fun d hd =>
    hafter d (List.mem_reverse.mp hd)
  rw [trim, hfront, trimEnd, List.reverse_append, List.dropWhile_append_of_pos hback,
    List.reverse_append, List.reverse_singleton, List.singleton_append,
    List.dropWhile_cons_of_neg (by simp [hc])]
  simp

theorem trim_around_plain {before cs after : List Char}
    (hbefore : ∀ c ∈ before, isBlank c = true) (hafter : ∀ c ∈ after, isBlank c = true)
    (hne : cs ≠ []) (hplain : ∀ c ∈ cs, isBlank c = false) :
    trim (before ++ (cs ++ after)) = cs := by
  refine trim_around hbefore hafter ?_ ?_
  · intro r
    obtain ⟨c, t, rfl⟩ := List.exists_cons_of_ne_nil hne
    have hc := hplain c (by simp)
    rw [trimStart, List.cons_append, List.dropWhile_cons_of_neg (by simp [hc])]
  · exact ⟨cs.dropLast, cs.getLast hne, (List.dropLast_append_getLast hne).symm,
      hplain _ (List.getLast_mem hne)⟩

/-- Trimming leaves a text without the blanks around it. -/
theorem trim_split (cs : List Char) : ∃ before after, cs = before ++ (trim cs ++ after) ∧
    (∀ c ∈ before, isBlank c = true) ∧ ∀ c ∈ after, isBlank c = true := by
  refine ⟨cs.takeWhile isBlank, ((trimStart cs).reverse.takeWhile isBlank).reverse, ?_, ?_, ?_⟩
  · rw [trim, trimEnd, ← List.reverse_append, List.takeWhile_append_dropWhile, List.reverse_reverse,
      trimStart, List.takeWhile_append_dropWhile]
  · exact List.all_eq_true.mp List.all_takeWhile
  · intro c hc
    exact List.all_eq_true.mp List.all_takeWhile c (List.mem_reverse.mp hc)

end ResourceQuery.Text
