import ResourceQuery.Proofs.Compiling

namespace ResourceQuery

def Attribute.Identifies (a : Attribute) : Prop :=
  a.type = .identifier ∨ normalizeName a.name = "id"

/-- Whether an attribute can be compared with a literal. -/
inductive Comparable (op : Comparison) (a : Attribute) (literal : String) : Prop where
  | identity (ha : a.Identifies) (h : isInteger literal ∨ op = .eq)
  | value (ha : ¬ a.Identifies) (c : ScalarClass) (v : Scalar) (hc : a.type.class? = some c)
      (hv : c.parse? literal = some v)

/-- Every node of the tree can be compiled. -/
inductive Supported : Filter → Prop where
  | comparison (op : Comparison) (a : Attribute) (literal : String)
      (h : Comparable op a literal) :
      Supported (.comparison op (.field [a]) (.literal literal))
  | matchText (a : Attribute) (text : String) : Supported (.matchText [a] text)
  | equalsAnyOf (a : Attribute) (values : List String) : Supported (.equalsAnyOf [a] values)
  | logical (op : Connective) (terms : List Filter) (hne : terms ≠ [])
      (h : ∀ t ∈ terms, Supported t) : Supported (.logical op terms)

/-- A path that is not a single attribute. -/
inductive PathObstacle : FieldPath → CompileError → Prop where
  | nothing : PathObstacle [] .emptyPath
  | chain (path : FieldPath) (h : 2 ≤ path.length) : PathObstacle path (.fieldChain path)

/-- What is wrong with a node by itself. Each rule of a comparison asks that the rules before it do
not apply. -/
inductive Obstacle : Filter → CompileError → Prop where
  | leftNotField (op : Comparison) (left right : Operand) (h : ∀ path, left ≠ .field path) :
      Obstacle (.comparison op left right) (.leftNotField left)
  | comparedPath (op : Comparison) (path : FieldPath) (right : Operand) (e : CompileError)
      (h : PathObstacle path e) : Obstacle (.comparison op (.field path) right) e
  | rightNotLiteral (op : Comparison) (a : Attribute) (right : Operand)
      (h : ∀ literal, right ≠ .literal literal) :
      Obstacle (.comparison op (.field [a]) right) (.rightNotLiteral right)
  | orderOnDocumentId (op : Comparison) (a : Attribute) (literal : String) (ha : a.Identifies)
      (hn : ¬ isInteger literal) (ho : op ≠ .eq) :
      Obstacle (.comparison op (.field [a]) (.literal literal)) (.orderOnDocumentId op literal)
  | fieldType (op : Comparison) (a : Attribute) (literal : String) (ha : ¬ a.Identifies)
      (hc : a.type.class? = none) :
      Obstacle (.comparison op (.field [a]) (.literal literal)) (.fieldType a.type)
  | badLiteral (op : Comparison) (a : Attribute) (literal : String) (ha : ¬ a.Identifies)
      (c : ScalarClass) (hc : a.type.class? = some c) (hv : c.parse? literal = none) :
      Obstacle (.comparison op (.field [a]) (.literal literal))
        (.badLiteral (normalizeName a.name) literal c)
  | matchedPath (path : FieldPath) (text : String) (e : CompileError) (h : PathObstacle path e) :
      Obstacle (.matchText path text) e
  | listedPath (path : FieldPath) (values : List String) (e : CompileError)
      (h : PathObstacle path e) : Obstacle (.equalsAnyOf path values) e
  | emptyGroup (op : Connective) : Obstacle (.logical op []) (.emptyGroup op)
  | negation (term : Filter) : Obstacle (.not term) .negation
  | bareField (path : FieldPath) : Obstacle (.fieldPath path) (.bareField path)
  | relationshipCheck (path : FieldPath) :
      Obstacle (.collectionNotEmpty path) (.relationshipCheck path)

mutual

/-- The nodes that can be wrong by themselves, from left to right: all but the groups that have
terms. A negation is not looked into. -/
def Filter.stops : Filter → List Filter
  | .logical _ (t :: ts) => t.stops ++ Filter.stopsOfAll ts
  | f => [f]

def Filter.stopsOfAll : List Filter → List Filter
  | [] => []
  | f :: fs => f.stops ++ Filter.stopsOfAll fs

end

/-- The first of the nodes that is wrong has this error. -/
def FirstObstacle (stops : List Filter) (e : CompileError) : Prop :=
  ∃ before g after, stops = before ++ g :: after ∧ (∀ s ∈ before, Supported s) ∧ Obstacle g e

theorem stops_of_all (fs : List Filter) : Filter.stopsOfAll fs = fs.flatMap Filter.stops := by
  induction fs with
  | nil => rfl
  | cons f fs ih => simp [Filter.stopsOfAll, ih]

theorem stops_logical (op : Connective) {terms : List Filter} (h : terms ≠ []) :
    (Filter.logical op terms).stops = terms.flatMap Filter.stops := by
  cases terms with
  | nil => contradiction
  | cons t ts => simp [Filter.stops, stops_of_all]

theorem supported_logical_iff {op : Connective} {terms : List Filter} :
    Supported (.logical op terms) ↔ terms ≠ [] ∧ ∀ t ∈ terms, Supported t := by
  constructor
  · intro h
    cases h
    exact ⟨‹_›, ‹_›⟩
  · intro h
    obtain ⟨hne, h⟩ := h
    exact .logical op terms hne h

/-- A tree is supported if none of its nodes is wrong by itself. -/
theorem supported_iff_stops (f : Filter) : Supported f ↔ ∀ s ∈ f.stops, Supported s := by
  induction f with
  | logical op terms ih =>
    by_cases hne : terms = []
    · subst hne
      simp [Filter.stops]
    · rw [supported_logical_iff, stops_logical op hne]
      simp only [List.mem_flatMap, ne_eq, hne, not_false_eq_true, true_and]
      constructor
      · intro h s hmem
        obtain ⟨t, ht, hs⟩ := hmem
        exact (ih t ht).mp (h t ht) s hs
      · intro h t ht
        exact (ih t ht).mpr fun s hs => h s ⟨t, ht, hs⟩
  | _ => simp [Filter.stops]

theorem firstObstacle_singleton {f : Filter} {e : CompileError} :
    FirstObstacle [f] e ↔ Obstacle f e := by
  constructor
  · intro h
    obtain ⟨before, g, after, h, -, ho⟩ := h
    obtain ⟨rfl, h⟩ | ⟨rest, rfl, h⟩ := List.cons_eq_append_iff.mp h
    · cases h
      exact ho
    · simp at h
  · intro h
    exact ⟨[], f, [], rfl, by simp, h⟩

theorem firstObstacle_append {xs ys : List Filter} {e : CompileError} :
    FirstObstacle (xs ++ ys) e ↔
      FirstObstacle xs e ∨ (∀ s ∈ xs, Supported s) ∧ FirstObstacle ys e := by
  constructor
  · intro h
    obtain ⟨before, g, after, h, hb, ho⟩ := h
    obtain ⟨rest, rfl, rfl⟩ | ⟨rest, rfl, hr⟩ := List.append_eq_append_iff.mp h
    · refine .inr ⟨fun s hs => hb s (by simp [hs]), rest, g, after, rfl, ?_, ho⟩
      exact fun s hs => hb s (by simp [hs])
    · obtain ⟨rfl, rfl⟩ | ⟨rest, rfl, rfl⟩ := List.cons_eq_append_iff.mp hr
      · exact .inr ⟨fun s hs => hb s (by simpa using hs), [], g, after, rfl, by simp, ho⟩
      · exact .inl ⟨before, g, rest, rfl, hb, ho⟩
  · intro h
    rcases h with ⟨before, g, after, rfl, hb, ho⟩ | ⟨hx, before, g, after, rfl, hb, ho⟩
    · exact ⟨before, g, after ++ ys, by simp, hb, ho⟩
    · refine ⟨xs ++ before, g, after, by simp, ?_, ho⟩
      intro s hs
      rcases List.mem_append.mp hs with hs | hs
      · exact hx s hs
      · exact hb s hs

theorem firstObstacle_flatMap {terms : List Filter} {e : CompileError} :
    FirstObstacle (terms.flatMap Filter.stops) e ↔
      ∃ before t after, terms = before ++ t :: after ∧ (∀ s ∈ before, Supported s) ∧
        FirstObstacle t.stops e := by
  induction terms with
  | nil => simp [FirstObstacle]
  | cons t ts ih =>
    rw [List.flatMap_cons, firstObstacle_append, ih, ← supported_iff_stops]
    constructor
    · intro h
      rcases h with h | ⟨ht, before, u, after, rfl, hb, h⟩
      · exact ⟨[], t, ts, rfl, by simp, h⟩
      · exact ⟨t :: before, u, after, rfl, List.forall_mem_cons.mpr ⟨ht, hb⟩, h⟩
    · intro h
      obtain ⟨before, u, after, hts, hb, h⟩ := h
      obtain ⟨rfl, hts⟩ | ⟨rest, rfl, rfl⟩ := List.cons_eq_append_iff.mp hts
      · cases hts
        exact .inl h
      · obtain ⟨ht, hr⟩ := List.forall_mem_cons.mp hb
        exact .inr ⟨ht, rest, u, after, rfl, hr, h⟩

theorem attribute_error_iff_obstacle {path : FieldPath} {e : CompileError} :
    path.attribute = .error e ↔ PathObstacle path e := by
  rw [attribute_error_iff]
  constructor
  · intro h
    rcases h with ⟨rfl, rfl⟩ | ⟨h, rfl⟩
    · exact .nothing
    · exact .chain path h
  · intro h
    cases h with
    | nothing => exact .inl ⟨rfl, rfl⟩
    | chain _ h => exact .inr ⟨h, rfl⟩

theorem isIdentifier_iff {a : Attribute} : a.isIdentifier = true ↔ a.Identifies := by
  simp [Attribute.isIdentifier, Attribute.Identifies, identifierName]

theorem targetField_of_other {a : Attribute} (h : ¬ a.Identifies) (literals : List String) :
    a.targetField literals = normalizeName a.name := by
  simp [Attribute.targetField, isIdentifier_iff, h]

theorem literalClass_of_other {a : Attribute} (h : ¬ a.Identifies) (literal : String) :
    a.literalClass? literal = a.type.class? := by
  simp [Attribute.literalClass?, isIdentifier_iff, h]

theorem comparable_iff {op : Comparison} {a : Attribute} {literal : String} :
    Comparable op a literal ↔
      ∃ c v, a.literalClass? literal = some c ∧ c.parse? literal = some v ∧
        (a.isIdentifier → isInteger literal ∨ op = .eq) := by
  constructor
  · intro h
    rcases h with ⟨ha, h⟩ | ⟨ha, c, v, hc, hv⟩
    · obtain ⟨v, hv⟩ := literalValue_of_identifier (isIdentifier_iff.mpr ha) literal
      obtain ⟨c, hc, hv⟩ := Option.bind_eq_some_iff.mp hv
      exact ⟨c, v, hc, hv, fun _ => h⟩
    · refine ⟨c, v, ?_, hv, fun h => absurd (isIdentifier_iff.mp h) ha⟩
      rw [literalClass_of_other ha, hc]
  · intro h
    obtain ⟨c, v, hc, hv, h⟩ := h
    by_cases ha : a.Identifies
    · exact .identity ha (h (isIdentifier_iff.mpr ha))
    · rw [literalClass_of_other ha] at hc
      exact .value ha c v hc hv

theorem compile_comparison_iff_supported {op : Comparison} {left right : Operand} :
    (∃ c, (Filter.comparison op left right).compile = .ok c) ↔
      Supported (.comparison op left right) := by
  constructor
  · intro h
    obtain ⟨c, h⟩ := h
    obtain ⟨a, literal, expected, value, rfl, rfl, hc, hv, hi, -⟩ :=
      compile_comparison_ok_iff.mp h
    exact .comparison op a literal (comparable_iff.mpr ⟨expected, value, hc, hv, hi⟩)
  · intro h
    cases h with
    | comparison op a literal h =>
      obtain ⟨c, v, hc, hv, hi⟩ := comparable_iff.mp h
      exact ⟨_, compile_comparison_ok_iff.mpr ⟨a, literal, c, v, rfl, rfl, hc, hv, hi, rfl⟩⟩

theorem compile_comparison_iff_obstacle {op : Comparison} {left right : Operand}
    {e : CompileError} :
    (Filter.comparison op left right).compile = .error e ↔
      Obstacle (.comparison op left right) e := by
  rw [compile_comparison_error_iff]
  constructor
  · intro h
    rcases h with
      hl | ⟨path, rfl, hp | ⟨a, rfl, hr | ⟨literal, rfl, hc | ⟨field, c, hc, hv, rfl⟩⟩⟩⟩
    · obtain ⟨h, rfl⟩ := path_error_iff.mp hl
      exact .leftNotField op left right h
    · exact .comparedPath op path right e (attribute_error_iff_obstacle.mp hp)
    · obtain ⟨h, rfl⟩ := constant_error_iff.mp hr
      exact .rightNotLiteral op a right h
    · obtain ⟨ha, hn, ho, rfl⟩ | ⟨ha, ht, rfl⟩ := comparedAs_error_iff.mp hc
      · exact .orderOnDocumentId op a literal (isIdentifier_iff.mp ha) hn ho
      · exact .fieldType op a literal (mt isIdentifier_iff.mpr ha) ht
    · -- the literals of an identifier have a value, so this is another attribute
      obtain ⟨hclass, -, rfl⟩ := comparedAs_ok_iff.mp hc
      have ha : ¬ a.Identifies := by
        intro ha
        obtain ⟨v, hw⟩ := literalValue_of_identifier (isIdentifier_iff.mpr ha) literal
        simp [Attribute.literalValue?, hclass, hv] at hw
      rw [targetField_of_other ha]
      exact .badLiteral op a literal ha c (literalClass_of_other ha literal ▸ hclass) hv
  · intro h
    cases h with
    | leftNotField _ _ _ h => exact .inl (path_error_iff.mpr ⟨h, rfl⟩)
    | comparedPath _ path _ _ h =>
      exact .inr ⟨path, rfl, .inl (attribute_error_iff_obstacle.mpr h)⟩
    | rightNotLiteral _ a _ h =>
      exact .inr ⟨_, rfl, .inr ⟨a, rfl, .inl (constant_error_iff.mpr ⟨h, rfl⟩)⟩⟩
    | orderOnDocumentId _ a literal ha hn ho =>
      refine .inr ⟨_, rfl, .inr ⟨a, rfl, .inr ⟨literal, rfl, .inl ?_⟩⟩⟩
      exact comparedAs_error_iff.mpr (.inl ⟨isIdentifier_iff.mpr ha, hn, ho, rfl⟩)
    | fieldType _ a literal ha hc =>
      refine .inr ⟨_, rfl, .inr ⟨a, rfl, .inr ⟨literal, rfl, .inl ?_⟩⟩⟩
      exact comparedAs_error_iff.mpr (.inr ⟨mt isIdentifier_iff.mp ha, hc, rfl⟩)
    | badLiteral _ a literal ha c hc hv =>
      refine .inr ⟨_, rfl, .inr ⟨a, rfl, .inr ⟨literal, rfl, .inr ⟨_, c, ?_, hv, rfl⟩⟩⟩⟩
      rw [comparedAs_ok_iff, literalClass_of_other ha, targetField_of_other ha]
      exact ⟨hc, fun h => absurd (isIdentifier_iff.mp h) ha, rfl⟩

theorem compile_iff_supported (f : Filter) : (∃ c, f.compile = .ok c) ↔ Supported f := by
  induction f with
  | comparison op left right => exact compile_comparison_iff_supported
  | matchText field text =>
    constructor
    · intro h
      obtain ⟨c, h⟩ := h
      obtain ⟨a, rfl, -⟩ := compile_matchText_ok_iff.mp h
      exact .matchText a text
    · intro h
      cases h
      exact ⟨_, rfl⟩
  | equalsAnyOf field values =>
    constructor
    · intro h
      obtain ⟨c, h⟩ := h
      obtain ⟨a, rfl, -⟩ := compile_equalsAnyOf_ok_iff.mp h
      exact .equalsAnyOf a values
    · intro h
      cases h
      exact ⟨_, rfl⟩
  | logical op terms ih =>
    rw [compile_logical_succeeds_iff, supported_logical_iff]
    exact and_congr_right fun _ => forall₂_congr ih
  | _ =>
    constructor
    · intro h
      simp [Filter.compile] at h
    · intro h
      cases h

theorem compile_matchText_iff_obstacle {field : FieldPath} {text : String} {e : CompileError} :
    (Filter.matchText field text).compile = .error e ↔ Obstacle (.matchText field text) e := by
  rw [compile_matchText_error_iff, attribute_error_iff_obstacle]
  constructor
  · exact .matchedPath field text e
  · intro h
    cases h with
    | matchedPath _ _ _ h => exact h

theorem compile_equalsAnyOf_iff_obstacle {field : FieldPath} {values : List String}
    {e : CompileError} :
    (Filter.equalsAnyOf field values).compile = .error e ↔
      Obstacle (.equalsAnyOf field values) e := by
  rw [compile_equalsAnyOf_error_iff, attribute_error_iff_obstacle]
  constructor
  · exact .listedPath field values e
  · intro h
    cases h with
    | listedPath _ _ _ h => exact h

theorem compile_logical_iff_firstObstacle {op : Connective} {terms : List Filter}
    {e : CompileError} (ih : ∀ t ∈ terms, t.compile = .error e ↔ FirstObstacle t.stops e) :
    (Filter.logical op terms).compile = .error e ↔
      FirstObstacle (Filter.logical op terms).stops e := by
  rw [compile_logical_error_iff]
  by_cases hne : terms = []
  · subst hne
    rw [Filter.stops, firstObstacle_singleton]
    · constructor
      · intro h
        rcases h with ⟨-, rfl⟩ | ⟨before, t, after, h, -⟩
        · exact .emptyGroup op
        · simp at h
      · intro h
        cases h with
        | emptyGroup => exact .inl ⟨rfl, rfl⟩
    · nofun
  · rw [stops_logical op hne, firstObstacle_flatMap]
    simp only [hne, false_and, false_or, compile_iff_supported]
    refine exists_congr fun before => exists_congr fun t => exists_congr fun after => ?_
    refine and_congr_right fun hterms => and_congr_right fun _ => ih t ?_
    simp [hterms]

/-- A node that never compiles has one error. -/
theorem compile_never_iff {f : Filter} {why e : CompileError} (hs : f.stops = [f])
    (hc : f.compile = .error why) (ho : Obstacle f why) (hunique : ∀ e, Obstacle f e → e = why) :
    f.compile = .error e ↔ FirstObstacle f.stops e := by
  rw [hs, firstObstacle_singleton, hc, Except.error.injEq]
  constructor
  · intro h
    subst h
    exact ho
  · intro h
    exact (hunique e h).symm

/-- A filter compiles if every node of it is supported; else its error is that of the first node,
from left to right, that is not. -/
theorem compile_outcome (f : Filter) :
    ((∃ c, f.compile = .ok c) ↔ Supported f) ∧
      ∀ e, f.compile = .error e ↔
        ∃ before g after, f.stops = before ++ g :: after ∧ (∀ s ∈ before, Supported s) ∧
          Obstacle g e := by
  refine ⟨compile_iff_supported f, fun e => ?_⟩
  change f.compile = .error e ↔ FirstObstacle f.stops e
  induction f with
  | comparison op left right =>
    rw [Filter.stops, firstObstacle_singleton, compile_comparison_iff_obstacle]
    nofun
  | matchText field text =>
    rw [Filter.stops, firstObstacle_singleton, compile_matchText_iff_obstacle]
    nofun
  | equalsAnyOf field values =>
    rw [Filter.stops, firstObstacle_singleton, compile_equalsAnyOf_iff_obstacle]
    nofun
  | logical op terms ih => exact compile_logical_iff_firstObstacle ih
  | not term ih =>
    apply compile_never_iff rfl rfl (.negation term)
    intro e h
    cases h
    rfl
  | fieldPath path =>
    apply compile_never_iff rfl rfl (.bareField path)
    intro e h
    cases h
    rfl
  | collectionNotEmpty path =>
    apply compile_never_iff rfl rfl (.relationshipCheck path)
    intro e h
    cases h
    rfl

end ResourceQuery
