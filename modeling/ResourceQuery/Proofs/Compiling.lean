import ResourceQuery.Compile.Constraint
import ResourceQuery.Proofs.Results

namespace ResourceQuery

/-- The class of the literals that mean the same kind of value as the attribute. -/
def Attribute.literalClass? (a : Attribute) (literal : String) : Option ScalarClass :=
  if a.isIdentifier then some (if isInteger literal then .integer else .text) else a.type.class?

/-- The value that a literal has beside the attribute. -/
def Attribute.literalValue? (a : Attribute) (literal : String) : Option Scalar :=
  (a.literalClass? literal).bind (·.parse? literal)

/-- The clause of a group that has more than one clause. -/
def Connective.join : Connective → List Clause → Clause
  | .and => .all
  | .or => .any

theorem attribute_ok_iff {path : FieldPath} {a : Attribute} :
    path.attribute = .ok a ↔ path = [a] := by
  match path with
  | [] => simp [FieldPath.attribute]
  | [b] => simp [FieldPath.attribute]
  | b :: c :: rest => simp [FieldPath.attribute]

theorem attribute_error_iff {path : FieldPath} {e : CompileError} :
    path.attribute = .error e ↔
      path = [] ∧ e = .emptyPath ∨ 2 ≤ path.length ∧ e = .fieldChain path := by
  match path with
  | [] => simp [FieldPath.attribute, eq_comm]
  | [b] => simp [FieldPath.attribute]
  | b :: c :: rest => simp [FieldPath.attribute, eq_comm]

theorem path_ok_iff {o : Operand} {path : FieldPath} : o.path = .ok path ↔ o = .field path := by
  cases o <;> simp [Operand.path]

theorem path_error_iff {o : Operand} {e : CompileError} :
    o.path = .error e ↔ (∀ path, o ≠ .field path) ∧ e = .leftNotField o := by
  cases o <;> simp [Operand.path, eq_comm]

theorem constant_ok_iff {o : Operand} {literal : String} :
    o.constant = .ok literal ↔ o = .literal literal := by
  cases o <;> simp [Operand.constant]

theorem constant_error_iff {o : Operand} {e : CompileError} :
    o.constant = .error e ↔ (∀ literal, o ≠ .literal literal) ∧ e = .rightNotLiteral o := by
  cases o <;> simp [Operand.constant, eq_comm]

/-- No literals lead to the engine's own id. -/
theorem identifierField_eq (literals : List String) :
    identifierField literals =
      if literals ≠ [] ∧ ∀ s ∈ literals, isInteger s then databaseIdField else documentIdField := by
  have hcondition : (!literals.isEmpty && literals.all isInteger) = true ↔
      literals ≠ [] ∧ ∀ s ∈ literals, isInteger s := by
    simp [List.all_eq_true]
  simp only [identifierField, hcondition]

/-- A comparison asks about the field that its attribute has beside the literal. The operator only
matters for the engine's own id. -/
theorem comparedAs_ok_iff {a : Attribute} {op : Comparison} {literal field : String}
    {c : ScalarClass} :
    a.comparedAs op literal = .ok (field, c) ↔
      a.literalClass? literal = some c ∧ (a.isIdentifier → isInteger literal ∨ op = .eq) ∧
        field = a.targetField [literal] := by
  rw [@eq_comm _ field]
  unfold Attribute.comparedAs Attribute.literalClass? Attribute.targetField
  rw [identifierField_eq]
  by_cases hi : a.isIdentifier
  · by_cases hn : isInteger literal
    · simp [hi, hn, and_comm]
    · by_cases ho : op = .eq <;> simp [hi, hn, ho, and_comm]
  · cases hc : a.type.class? <;> simp [hi, and_comm]

theorem comparedAs_error_iff {a : Attribute} {op : Comparison} {literal : String}
    {e : CompileError} :
    a.comparedAs op literal = .error e ↔
      a.isIdentifier ∧ ¬ isInteger literal ∧ op ≠ .eq ∧ e = .orderOnDocumentId op literal ∨
      ¬ a.isIdentifier ∧ a.type.class? = none ∧ e = .fieldType a.type := by
  rw [@eq_comm _ e, @eq_comm _ e]
  unfold Attribute.comparedAs
  by_cases hi : a.isIdentifier
  · by_cases hn : isInteger literal <;> by_cases ho : op = .eq <;> simp [hi, hn, ho]
  · cases hc : a.type.class? <;> simp [hi]

/-- A literal beside the identifier always has a value. -/
theorem literalValue_of_identifier {a : Attribute} (ha : a.isIdentifier) (literal : String) :
    ∃ v, a.literalValue? literal = some v := by
  unfold Attribute.literalValue? Attribute.literalClass?
  by_cases hn : isInteger literal
  · obtain ⟨n, hv⟩ := Option.isSome_iff_exists.mp hn
    exact ⟨.long n, by simp [ha, hn, ScalarClass.parse?, hv]⟩
  · exact ⟨.text literal, by simp [ha, hn, ScalarClass.parse?]⟩

theorem constraint_ok_iff {op : Comparison} {left right : Operand} {k : Constraint} :
    constraint op left right = .ok k ↔
      ∃ a literal, left = .field [a] ∧ right = .literal literal ∧
        a.comparedAs op literal = .ok (k.field, k.expected) ∧
        k.expected.parse? literal = some k.value ∧ k.op = op := by
  simp only [constraint, bind_ok_iff, path_ok_iff, attribute_ok_iff, constant_ok_iff]
  constructor
  · intro h
    obtain ⟨path, rfl, a, rfl, literal, rfl, ⟨field, expected⟩, he, h⟩ := h
    refine ⟨a, literal, rfl, rfl, ?_⟩
    split at h
    · next value hv =>
      obtain rfl := Except.ok.inj h
      exact ⟨he, hv, rfl⟩
    · contradiction
  · intro h
    obtain ⟨a, literal, rfl, rfl, he, hv, ho⟩ := h
    refine ⟨[a], rfl, a, rfl, literal, rfl, (k.field, k.expected), he, ?_⟩
    simp only [hv, ← ho]
    rfl

theorem compile_comparison_ok_iff {op : Comparison} {left right : Operand} {c : Clause} :
    (Filter.comparison op left right).compile = .ok c ↔
      ∃ a literal expected value, left = .field [a] ∧ right = .literal literal ∧
        a.literalClass? literal = some expected ∧ expected.parse? literal = some value ∧
        (a.isIdentifier → isInteger literal ∨ op = .eq) ∧
        c = Constraint.clause ⟨a.targetField [literal], expected, op, value⟩ := by
  simp only [Filter.compile, map_ok_iff, constraint_ok_iff, comparedAs_ok_iff]
  constructor
  · intro h
    obtain ⟨⟨field, expected, op, value⟩, ⟨a, literal, hl, hr, ⟨hc, hi, rfl⟩, hv, rfl⟩, rfl⟩ := h
    exact ⟨a, literal, expected, value, hl, hr, hc, hv, hi, rfl⟩
  · intro h
    obtain ⟨a, literal, expected, value, hl, hr, hc, hv, hi, rfl⟩ := h
    exact ⟨_, ⟨a, literal, hl, hr, ⟨hc, hi, rfl⟩, hv, rfl⟩, rfl⟩

/-- The checks of a comparison in their order: left operand, path, right operand, class, value. -/
theorem compile_comparison_error_iff {op : Comparison} {left right : Operand} {e : CompileError} :
    (Filter.comparison op left right).compile = .error e ↔
      left.path = .error e ∨
      ∃ path, left = .field path ∧ (path.attribute = .error e ∨
        ∃ a, path = [a] ∧ (right.constant = .error e ∨
          ∃ literal, right = .literal literal ∧ (a.comparedAs op literal = .error e ∨
            ∃ field c, a.comparedAs op literal = .ok (field, c) ∧ c.parse? literal = none ∧
              e = .badLiteral field literal c))) := by
  simp only [Filter.compile, map_error_iff, constraint, bind_error_iff, path_ok_iff,
    attribute_ok_iff, constant_ok_iff, Prod.exists]
  refine or_congr_right (exists_congr fun path => and_congr_right fun _ => or_congr_right
    (exists_congr fun a => and_congr_right fun _ => or_congr_right
      (exists_congr fun literal => and_congr_right fun _ => or_congr_right
        (exists₂_congr fun field c => and_congr_right fun _ => ?_))))
  cases c.parse? literal with
  | none => simp [@eq_comm _ e]
  | some value => simp [pure_eq_ok]

theorem compile_matchText_ok_iff {field : FieldPath} {text : String} {c : Clause} :
    (Filter.matchText field text).compile = .ok c ↔
      ∃ a, field = [a] ∧ c = .fuzzy (a.targetField [text]) text := by
  simp only [Filter.compile, bind_ok_iff, attribute_ok_iff, pure_eq_ok, Except.ok.injEq,
    @eq_comm _ c]

theorem compile_equalsAnyOf_ok_iff {field : FieldPath} {values : List String} {c : Clause} :
    (Filter.equalsAnyOf field values).compile = .ok c ↔
      ∃ a, field = [a] ∧ c = .terms (a.targetField values) values := by
  simp only [Filter.compile, bind_ok_iff, attribute_ok_iff, pure_eq_ok, Except.ok.injEq,
    @eq_comm _ c]

theorem compile_matchText_error_iff {field : FieldPath} {text : String} {e : CompileError} :
    (Filter.matchText field text).compile = .error e ↔ field.attribute = .error e := by
  simp [Filter.compile, bind_error_iff, pure_eq_ok]

theorem compile_equalsAnyOf_error_iff {field : FieldPath} {values : List String}
    {e : CompileError} :
    (Filter.equalsAnyOf field values).compile = .error e ↔ field.attribute = .error e := by
  simp [Filter.compile, bind_error_iff, pure_eq_ok]

theorem compileAll_eq_mapM (fs : List Filter) : Filter.compileAll fs = fs.mapM Filter.compile := by
  induction fs with
  | nil => rfl
  | cons f fs ih => simp [Filter.compileAll, ih]

theorem group_of_two {op : Connective} {cs : List Clause} (h : 2 ≤ cs.length) :
    group op cs = .ok (op.join cs) := by
  match cs, h with
  | c :: d :: cs, _ => cases op <;> rfl

theorem group_ok_iff {op : Connective} {cs : List Clause} {c : Clause} :
    group op cs = .ok c ↔ cs = [c] ∨ 2 ≤ cs.length ∧ c = op.join cs := by
  match cs with
  | [] => simp [group]
  | [d] => simp [group]
  | d :: e :: cs => simp [group_of_two, eq_comm]

theorem group_error_iff {op : Connective} {cs : List Clause} {e : CompileError} :
    group op cs = .error e ↔ cs = [] ∧ e = .emptyGroup op := by
  match cs with
  | [] => simp [group, eq_comm]
  | [d] => simp [group]
  | d :: e :: cs => simp [group_of_two]

theorem compile_logical_ok_iff {op : Connective} {terms : List Filter} {c : Clause} :
    (Filter.logical op terms).compile = .ok c ↔
      ∃ cs, List.Forall₂ (fun t d => t.compile = .ok d) terms cs ∧
        (cs = [c] ∨ 2 ≤ cs.length ∧ c = op.join cs) := by
  simp only [Filter.compile, bind_ok_iff, compileAll_eq_mapM, mapM_ok_iff, group_ok_iff]

theorem compile_logical_succeeds_iff {op : Connective} {terms : List Filter} :
    (∃ c, (Filter.logical op terms).compile = .ok c) ↔
      terms ≠ [] ∧ ∀ t ∈ terms, ∃ c, t.compile = .ok c := by
  simp only [Filter.compile, bind_ok_iff, compileAll_eq_mapM, ← mapM_succeeds_iff]
  constructor
  · intro h
    obtain ⟨c, cs, hcs, hg⟩ := h
    refine ⟨?_, cs, hcs⟩
    intro h
    subst h
    cases hcs
    cases hg
  · intro h
    obtain ⟨hne, cs, hcs⟩ := h
    have hlen := (mapM_ok_iff.mp hcs).length_eq
    match cs with
    | [] => exact absurd (List.eq_nil_of_length_eq_zero hlen) hne
    | [c] => exact ⟨c, [c], hcs, rfl⟩
    | c :: d :: cs => exact ⟨_, _, hcs, group_of_two (by simp)⟩

/-- A group is empty, or the first of its terms that stops is what stops it. -/
theorem compile_logical_error_iff {op : Connective} {terms : List Filter} {e : CompileError} :
    (Filter.logical op terms).compile = .error e ↔
      terms = [] ∧ e = .emptyGroup op ∨
      ∃ before t after, terms = before ++ t :: after ∧ (∀ s ∈ before, ∃ c, s.compile = .ok c) ∧
        t.compile = .error e := by
  simp only [Filter.compile, bind_error_iff, compileAll_eq_mapM, mapM_ok_iff, mapM_error_iff,
    group_error_iff]
  constructor
  · intro h
    rcases h with h | ⟨cs, hcs, rfl, he⟩
    · exact .inr h
    · cases hcs
      exact .inl ⟨rfl, he⟩
  · intro h
    rcases h with ⟨rfl, he⟩ | h
    · exact .inr ⟨[], .nil, rfl, he⟩
    · exact .inl h

end ResourceQuery
