import ResourceQuery.Proofs.Obstacles

namespace ResourceQuery

mutual

/-- The clauses at the ends of a query, from left to right. -/
def Clause.leaves : Clause → List Clause
  | .all cs | .any cs => Clause.leavesOfAll cs
  | .term field value => [.term field value]
  | .terms field values => [.terms field values]
  | .range field bound value => [.range field bound value]
  | .fuzzy field text => [.fuzzy field text]

def Clause.leavesOfAll : List Clause → List Clause
  | [] => []
  | c :: cs => c.leaves ++ Clause.leavesOfAll cs

end

/-- The clause asks of a document's identities nothing that they do not support. -/
def Clause.RespectsIdentities : Clause → Prop
  | .term field value => field = "databaseId" → ∃ n, value = .long n
  | .range field _ value => field ≠ "_id" ∧ (field = "databaseId" → ∃ n, value = .long n)
  | .terms field values => field = "databaseId" → ∀ v ∈ values, isInteger v
  | .fuzzy field text => field = "databaseId" → isInteger text
  | .all _ | .any _ => True

/-- A condition on an attribute that has the name of an identity without being the identifier, of
a kind that the identity does not support. -/
inductive Impostor : Filter → Prop where
  | order (op : Comparison) (a : Attribute) (literal : String) (ha : ¬ a.Identifies)
      (hn : normalizeName a.name = "_id") (ho : op ≠ .eq) :
      Impostor (.comparison op (.field [a]) (.literal literal))
  | value (op : Comparison) (a : Attribute) (literal : String) (ha : ¬ a.Identifies)
      (hn : normalizeName a.name = "databaseId") (hc : a.type.class? ≠ some .integer) :
      Impostor (.comparison op (.field [a]) (.literal literal))
  | text (a : Attribute) (text : String) (ha : ¬ a.Identifies)
      (hn : normalizeName a.name = "databaseId") (ht : ¬ isInteger text) :
      Impostor (.matchText [a] text)
  | list (a : Attribute) (values : List String) (ha : ¬ a.Identifies)
      (hn : normalizeName a.name = "databaseId") (hv : ∃ v ∈ values, ¬ isInteger v) :
      Impostor (.equalsAnyOf [a] values)

theorem leaves_of_all (cs : List Clause) : Clause.leavesOfAll cs = cs.flatMap Clause.leaves := by
  induction cs with
  | nil => rfl
  | cons c cs ih => simp [Clause.leavesOfAll, ih]

theorem leaves_join (op : Connective) (cs : List Clause) :
    (op.join cs).leaves = cs.flatMap Clause.leaves := by
  cases op <;> simp [Connective.join, Clause.leaves, leaves_of_all]

theorem targetField_of_identifier {a : Attribute} (ha : a.Identifies) (literals : List String) :
    a.targetField literals = identifierField literals := by
  simp [Attribute.targetField, isIdentifier_iff.mpr ha]

/-- The identifier leads to the integer identity with literals that are all integers. -/
theorem identifierField_databaseId_iff {literals : List String} :
    identifierField literals = "databaseId" ↔ literals ≠ [] ∧ ∀ s ∈ literals, isInteger s := by
  rw [identifierField_eq]
  split
  next h => exact iff_of_true rfl h
  next h => exact iff_of_false (by decide) h

theorem identifierField_documentId_iff {literals : List String} :
    identifierField literals = "_id" ↔ identifierField literals ≠ "databaseId" := by
  rw [identifierField_eq]
  split <;> decide

theorem identifierField_singleton_iff {literal : String} :
    identifierField [literal] = "databaseId" ↔ isInteger literal = true := by
  rw [identifierField_databaseId_iff]
  simp

theorem integers_of_databaseId {literals : List String}
    (h : identifierField literals = "databaseId") : ∀ s ∈ literals, isInteger s :=
  (identifierField_databaseId_iff.mp h).2

theorem literalClass_of_integer {a : Attribute} (ha : a.Identifies) {literal : String}
    (hn : isInteger literal) : a.literalClass? literal = some .integer := by
  simp [Attribute.literalClass?, isIdentifier_iff.mpr ha, hn]

theorem parse_long_iff {c : ScalarClass} {literal : String} {v : Scalar}
    (h : c.parse? literal = some v) : (∃ n, v = .long n) ↔ c = .integer := by
  cases c <;> simp only [ScalarClass.parse?, Option.map_eq_some_iff, Option.some.injEq] at h
  case integer =>
    obtain ⟨n, -, rfl⟩ := h
    simp
  case float =>
    obtain ⟨x, -, rfl⟩ := h
    simp
  case dateTime =>
    obtain ⟨t, -, rfl⟩ := h
    simp
  case text =>
    subst h
    simp

theorem constraint_respects_iff (k : Constraint) :
    k.clause.RespectsIdentities ↔
      (k.op ≠ .eq → k.field ≠ "_id") ∧ (k.field = "databaseId" → ∃ n, k.value = .long n) := by
  obtain ⟨field, expected, op, value⟩ := k
  cases op <;> simp [Constraint.clause, Clause.RespectsIdentities]

theorem comparison_respects_iff {op : Comparison} {a : Attribute} {literal : String}
    {expected : ScalarClass} {value : Scalar} (hc : a.literalClass? literal = some expected)
    (hv : expected.parse? literal = some value)
    (hi : a.isIdentifier → isInteger literal ∨ op = .eq) :
    (Constraint.clause ⟨a.targetField [literal], expected, op, value⟩).RespectsIdentities ↔
      ¬ Impostor (.comparison op (.field [a]) (.literal literal)) := by
  rw [constraint_respects_iff, parse_long_iff hv]
  by_cases ha : a.Identifies
  · have hno : ¬ Impostor (.comparison op (.field [a]) (.literal literal)) := by
      intro h
      cases h <;> contradiction
    simp only [hno, not_false_eq_true, iff_true, targetField_of_identifier ha]
    constructor
    · intro ho hf
      rcases hi (isIdentifier_iff.mpr ha) with hn | he
      · exact identifierField_documentId_iff.mp hf (identifierField_singleton_iff.mpr hn)
      · exact ho he
    · intro hf
      have hn := identifierField_singleton_iff.mp hf
      rw [literalClass_of_integer ha hn] at hc
      exact (Option.some.inj hc).symm
  · rw [literalClass_of_other ha] at hc
    rw [targetField_of_other ha]
    constructor
    · intro h himp
      obtain ⟨horder, hvalue⟩ := h
      cases himp with
      | order _ _ _ _ hn ho => exact horder ho hn
      | value _ _ _ _ hn hne => exact hne (hvalue hn ▸ hc)
    · intro h
      constructor
      · intro ho hn
        exact h (.order op a literal ha hn ho)
      · intro hn
        by_contra hne
        exact h (.value op a literal ha hn (by simp [hc, hne]))

theorem matchText_respects_iff (a : Attribute) (text : String) :
    (Clause.fuzzy (a.targetField [text]) text).RespectsIdentities ↔
      ¬ Impostor (.matchText [a] text) := by
  unfold Clause.RespectsIdentities
  by_cases ha : a.Identifies
  · rw [targetField_of_identifier ha]
    constructor
    · intro _ h
      cases h
      contradiction
    · intro _ hf
      exact identifierField_singleton_iff.mp hf
  · rw [targetField_of_other ha]
    constructor
    · intro h himp
      cases himp with
      | text _ _ _ hn ht => exact ht (h hn)
    · intro h hn
      by_contra ht
      exact h (.text a text ha hn ht)

theorem equalsAnyOf_respects_iff (a : Attribute) (values : List String) :
    (Clause.terms (a.targetField values) values).RespectsIdentities ↔
      ¬ Impostor (.equalsAnyOf [a] values) := by
  unfold Clause.RespectsIdentities
  by_cases ha : a.Identifies
  · rw [targetField_of_identifier ha]
    constructor
    · intro _ h
      cases h
      contradiction
    · exact fun _ => integers_of_databaseId
  · rw [targetField_of_other ha]
    constructor
    · intro h himp
      cases himp with
      | list _ _ _ hn hv =>
        obtain ⟨v, hm, hv⟩ := hv
        exact hv (h hn v hm)
    · intro h hn v hm
      by_contra hv
      exact h (.list a values ha hn ⟨v, hm, hv⟩)

/-- A range over the engine's own id, asked of an attribute of that name. -/
def rangeOverDocumentId : Filter :=
  .comparison .gt (.field [⟨"_id", .string⟩]) (.literal "x")

theorem identities_not_always_respected :
    ¬ ∀ f c, Filter.compile f = .ok c → ∀ leaf ∈ c.leaves, leaf.RespectsIdentities := by
  intro h
  have hr := h rangeOverDocumentId (.range "_id" .gt (.text "x")) rfl _ (List.mem_singleton_self _)
  exact hr.1 rfl

/-- The identities are asked what they support, except by conditions on attributes that take their
names. -/
theorem identities_respected_iff (f : Filter) (c : Clause) (h : f.compile = .ok c) :
    (∀ leaf ∈ c.leaves, leaf.RespectsIdentities) ↔ ∀ s ∈ f.stops, ¬ Impostor s := by
  induction f generalizing c with
  | comparison op left right =>
    obtain ⟨a, literal, expected, value, rfl, rfl, hc, hv, hi, rfl⟩ :=
      compile_comparison_ok_iff.mp h
    have hleaves (k : Constraint) : k.clause.leaves = [k.clause] := by
      obtain ⟨field, expected, op, value⟩ := k
      cases op <;> rfl
    simpa [hleaves, Filter.stops] using comparison_respects_iff hc hv hi
  | matchText field text =>
    obtain ⟨a, rfl, rfl⟩ := compile_matchText_ok_iff.mp h
    simpa [Clause.leaves, Filter.stops] using matchText_respects_iff a text
  | equalsAnyOf field values =>
    obtain ⟨a, rfl, rfl⟩ := compile_equalsAnyOf_ok_iff.mp h
    simpa [Clause.leaves, Filter.stops] using equalsAnyOf_respects_iff a values
  | logical op terms ih =>
    obtain ⟨cs, hcs, hjoin⟩ := compile_logical_ok_iff.mp h
    have hne : terms ≠ [] := (compile_logical_succeeds_iff.mp ⟨c, h⟩).1
    have hleaves : c.leaves = cs.flatMap Clause.leaves := by
      rcases hjoin with rfl | ⟨-, rfl⟩
      · simp
      · exact leaves_join op cs
    have hterms := forall_mem_iff_of_forall₂
      (forall₂_of_mem hcs fun t ht d hd => (ih t ht d hd).symm)
    rw [hleaves, stops_logical op hne]
    simp only [List.mem_flatMap, forall_exists_index, and_imp]
    constructor
    · intro hl s t ht hs
      exact hterms.mpr (fun d hd leaf hleaf => hl leaf d hd hleaf) t ht s hs
    · intro hs leaf d hd hleaf
      exact hterms.mp (fun t ht s hst => hs s t ht hst) d hd leaf hleaf
  | not term ih => simp [Filter.compile] at h
  | fieldPath path => simp [Filter.compile] at h
  | collectionNotEmpty path => simp [Filter.compile] at h

/-- A range over the integer identity beside an attribute that has taken its name. -/
def databaseIdTwice : Filter :=
  .logical .and
    [.comparison .gt (.field [⟨"Id", .string⟩]) (.literal "42"),
      .matchText [⟨"DatabaseId", .int32⟩] "seven"]

def databaseIdTwiceQuery : Clause :=
  .all [.range "databaseId" .gt (.long 42), .fuzzy "databaseId" "seven"]

theorem databaseIdTwice_respected_iff :
    databaseIdTwice.compile = .ok databaseIdTwiceQuery ∧
      ((∀ leaf ∈ databaseIdTwiceQuery.leaves, leaf.RespectsIdentities) ↔
        ∀ s ∈ databaseIdTwice.stops, ¬ Impostor s) := by
  have hcompile : databaseIdTwice.compile = .ok databaseIdTwiceQuery := by
    rfl
  exact ⟨hcompile, identities_respected_iff databaseIdTwice databaseIdTwiceQuery hcompile⟩

end ResourceQuery
