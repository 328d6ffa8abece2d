import ResourceQuery.Proofs.Collapsing

namespace ResourceQuery

/-- The filter compiles to a condition on the field. -/
def Filter.SentTo (f : Filter) (field : String) : Prop :=
  ∃ c, f.compile = .ok c ∧ c.field? = some field

/-- Neither the order of the literals nor their number matters. -/
theorem identifierField_congr {values others : List String} (h : ∀ v, v ∈ others ↔ v ∈ values) :
    identifierField others = identifierField values := by
  have hempty : others = [] ↔ values = [] := by
    simp only [List.eq_nil_iff_forall_not_mem, h]
  simp only [identifierField_eq, ne_eq, hempty, h]

theorem comparison_field {op : Comparison} {a : Attribute} {literal : String} {c : Clause}
    (h : (Filter.comparison op (.field [a]) (.literal literal)).compile = .ok c) :
    c.field? = some (a.targetField [literal]) := by
  obtain ⟨b, text, expected, value, hleft, hright, -, -, -, rfl⟩ := compile_comparison_ok_iff.mp h
  cases hleft
  cases hright
  exact field_constraint _

theorem matchText_sentTo_iff {a : Attribute} {text field : String} :
    (Filter.matchText [a] text).SentTo field ↔ field = a.targetField [text] := by
  simp [Filter.SentTo, compile_matchText_ok_iff, Clause.field?, @eq_comm _ field]

theorem equalsAnyOf_sentTo_iff {a : Attribute} {values : List String} {field : String} :
    (Filter.equalsAnyOf [a] values).SentTo field ↔ field = a.targetField values := by
  simp [Filter.SentTo, compile_equalsAnyOf_ok_iff, Clause.field?, @eq_comm _ field]

/-- Beside the identifier any text can be tested for equality, and integers can be ordered. -/
theorem comparison_sentTo_iff {a : Attribute} (ha : a.Identifies) {op : Comparison}
    {literal field : String} :
    (Filter.comparison op (.field [a]) (.literal literal)).SentTo field ↔
      (isInteger literal ∨ op = .eq) ∧ field = identifierField [literal] := by
  rw [← targetField_of_identifier ha]
  constructor
  · rintro ⟨c, hc, hfield⟩
    rw [comparison_field hc] at hfield
    refine ⟨?_, (Option.some.inj hfield).symm⟩
    cases compile_comparison_iff_supported.mp ⟨c, hc⟩ with
    | comparison _ _ _ h =>
      cases h with
      | identity _ h => exact h
      | value hno => exact absurd ha hno
  · rintro ⟨h, rfl⟩
    obtain ⟨c, hc⟩ := compile_comparison_iff_supported.mpr
      (.comparison op a literal (.identity ha h))
    exact ⟨c, hc, comparison_field hc⟩

/-- A comparison that compiles, a match and a list of one literal ask about the field that the
attribute has beside that literal. A list beside the identifier asks about the integer identity if it
has values and each of them would be sent there by a test of equality, and about the engine's own id
otherwise; only which values it has matters, not their order or number. -/
theorem forms_agree_on_field (a : Attribute) :
    (∀ literal,
      (∀ op c, (Filter.comparison op (.field [a]) (.literal literal)).compile = .ok c →
        c.field? = some (a.targetField [literal])) ∧
      (Filter.matchText [a] literal).SentTo (a.targetField [literal]) ∧
      (Filter.equalsAnyOf [a] [literal]).SentTo (a.targetField [literal])) ∧
    (a.Identifies → ∀ values,
      ((Filter.equalsAnyOf [a] values).SentTo "databaseId" ↔
        values ≠ [] ∧ ∀ v ∈ values,
          (Filter.comparison .eq (.field [a]) (.literal v)).SentTo "databaseId") ∧
      ((Filter.equalsAnyOf [a] values).SentTo "_id" ↔
        ¬ (values ≠ [] ∧ ∀ v ∈ values,
          (Filter.comparison .eq (.field [a]) (.literal v)).SentTo "databaseId")) ∧
      ∀ others, (∀ v, v ∈ others ↔ v ∈ values) → ∀ field,
        (Filter.equalsAnyOf [a] others).SentTo field ↔
          (Filter.equalsAnyOf [a] values).SentTo field) := by
  refine ⟨?_, ?_⟩
  · intro literal
    exact ⟨fun op c h => comparison_field h, matchText_sentTo_iff.mpr rfl,
      equalsAnyOf_sentTo_iff.mpr rfl⟩
  · intro ha values
    have hlist (values : List String) (field : String) :
        (Filter.equalsAnyOf [a] values).SentTo field ↔ identifierField values = field := by
      rw [equalsAnyOf_sentTo_iff, targetField_of_identifier ha, eq_comm]
    have halone (v : String) :
        (Filter.comparison .eq (.field [a]) (.literal v)).SentTo "databaseId" ↔ isInteger v := by
      rw [comparison_sentTo_iff ha, @eq_comm _ "databaseId", identifierField_singleton_iff]
      simp
    simp only [hlist, halone, identifierField_documentId_iff, ← identifierField_databaseId_iff,
      ne_eq, true_and]
    intro others h field
    rw [identifierField_congr h]

/-- The key of a book is ordered as an integer, and one value that is none sends a list to the
engine's own id. -/
theorem bookKeys_agree_on_field :
    (Filter.comparison .ge (.field [⟨"Key", .identifier⟩]) (.literal " +7 ")).compile =
        .ok (.range "databaseId" .gte (.long 7)) ∧
      (Clause.range "databaseId" .gte (.long 7)).field? =
        some (Attribute.targetField ⟨"Key", .identifier⟩ [" +7 "]) ∧
      Attribute.Identifies ⟨"Key", .identifier⟩ ∧
      (Filter.equalsAnyOf [⟨"Key", .identifier⟩] ["7", "x"]).SentTo "_id" ∧
      (∀ v, v ∈ ["8", "7", "8"] ↔ v ∈ ["7", "8"]) ∧
      ((Filter.equalsAnyOf [⟨"Key", .identifier⟩] ["8", "7", "8"]).SentTo "databaseId" ↔
        (Filter.equalsAnyOf [⟨"Key", .identifier⟩] ["7", "8"]).SentTo "databaseId") := by
  have hcompile : (Filter.comparison .ge (.field [⟨"Key", .identifier⟩]) (.literal " +7 ")).compile =
      .ok (.range "databaseId" .gte (.long 7)) := by
    rfl
  have hidentifies : Attribute.Identifies ⟨"Key", .identifier⟩ := .inl rfl
  have hmixed : ¬ isInteger "x" := by
    decide
  have hsame : ∀ v, v ∈ ["8", "7", "8"] ↔ v ∈ ["7", "8"] := by
    simp [or_comm]
  obtain ⟨hforms, hlists⟩ := forms_agree_on_field ⟨"Key", .identifier⟩
  refine ⟨hcompile, (hforms " +7 ").1 _ _ hcompile, hidentifies, ?_, hsame,
    (hlists hidentifies ["7", "8"]).2.2 _ hsame _⟩
  refine (hlists hidentifies ["7", "x"]).2.1.mpr ?_
  rintro ⟨-, heach⟩
  have hsent := ((comparison_sentTo_iff hidentifies).mp (heach "x" (by simp))).2
  exact hmixed (integers_of_databaseId hsent.symm "x" (by simp))

end ResourceQuery
