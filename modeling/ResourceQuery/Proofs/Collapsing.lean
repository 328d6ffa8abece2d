import ResourceQuery.Proofs.IdentityFields

namespace ResourceQuery

mutual

/-- Each group of one term gives way to that term. A negation is left as it is. -/
def Filter.collapse : Filter → Filter
  | .logical _ [t] => t.collapse
  | .logical op terms => .logical op (Filter.collapseAll terms)
  | f => f

def Filter.collapseAll : List Filter → List Filter
  | [] => []
  | f :: fs => f.collapse :: Filter.collapseAll fs

end

/-- The clause is the tree of the filter: for each condition a clause about one field, and for each
group, which has two terms at least, a clause that joins the clauses of its terms in their order. -/
inductive Mirrors : Filter → Clause → Prop where
  | condition {f : Filter} {c : Clause} {field : String} (hf : f.stops = [f])
      (hc : c.field? = some field) (h : f.compile = .ok c) : Mirrors f c
  | group {op : Connective} {terms : List Filter} {cs : List Clause} (hlen : 2 ≤ terms.length)
      (h : List.Forall₂ Mirrors terms cs) : Mirrors (.logical op terms) (op.join cs)

theorem collapseAll_eq_map (fs : List Filter) : Filter.collapseAll fs = fs.map Filter.collapse := by
  induction fs with
  | nil => rfl
  | cons f fs ih => rw [Filter.collapseAll, List.map_cons, ih]

theorem collapse_single (op : Connective) (t : Filter) :
    (Filter.logical op [t]).collapse = t.collapse := by
  rw [Filter.collapse]

theorem collapse_logical (op : Connective) {terms : List Filter} (h : terms.length ≠ 1) :
    (Filter.logical op terms).collapse = .logical op (terms.map Filter.collapse) := by
  rw [Filter.collapse, collapseAll_eq_map]
  intro t ht
  exact h (by rw [ht, List.length_singleton])

theorem compile_logical (op : Connective) (terms : List Filter) :
    (Filter.logical op terms).compile = terms.mapM Filter.compile >>= group op := by
  rw [Filter.compile, compileAll_eq_mapM]

theorem compile_single (op : Connective) (t : Filter) :
    (Filter.logical op [t]).compile = t.compile := by
  rw [compile_logical]
  cases h : t.compile with
  | error e => simp [h, bind, Except.bind]
  | ok c => simp [h, group]

/-- Collapsing leaves what a filter compiles to, or why it does not. -/
theorem compile_collapse (f : Filter) : f.collapse.compile = f.compile := by
  induction f with
  | logical op terms ih =>
    by_cases hone : terms.length = 1
    · obtain ⟨t, rfl⟩ := List.length_eq_one_iff.mp hone
      rw [collapse_single, compile_single, ih t (by simp)]
    · have hterms : (terms.map Filter.collapse).mapM Filter.compile =
          terms.mapM Filter.compile := by
        rw [List.mapM_map]
        exact mapM_congr ih
      rw [collapse_logical op hone, compile_logical, hterms, ← compile_logical]
  | _ => rfl

/-- A clause of one field is a leaf of its own. -/
theorem leaves_of_field {c : Clause} {field : String} (h : c.field? = some field) :
    c.leaves = [c] := by
  cases c <;> first | rfl | cases h

theorem field_constraint (k : Constraint) : k.clause.field? = some k.field := by
  obtain ⟨field, expected, op, value⟩ := k
  cases op <;> rfl

/-- What is no group compiles to a clause of one field, if it compiles. -/
theorem field_of_compile {f : Filter} {c : Clause} (hf : ∀ op terms, f ≠ .logical op terms)
    (h : f.compile = .ok c) : ∃ field, c.field? = some field := by
  cases f with
  | comparison op left right =>
    obtain ⟨a, literal, expected, value, -, -, -, -, -, rfl⟩ := compile_comparison_ok_iff.mp h
    exact ⟨_, field_constraint _⟩
  | matchText field text =>
    obtain ⟨a, -, rfl⟩ := compile_matchText_ok_iff.mp h
    exact ⟨_, rfl⟩
  | equalsAnyOf field values =>
    obtain ⟨a, -, rfl⟩ := compile_equalsAnyOf_ok_iff.mp h
    exact ⟨_, rfl⟩
  | logical op terms => exact absurd rfl (hf op terms)
  | not term => cases h
  | fieldPath path => cases h
  | collectionNotEmpty path => cases h

/-- The conditions of a filter, from left to right, and the leaves of a clause: each leaf is what
its condition compiles to. -/
def LeafByLeaf (f : Filter) (c : Clause) : Prop :=
  List.Forall₂ (fun g d => g.compile = .ok d) f.stops c.leaves

theorem condition_mirrored {f : Filter} {c : Clause} (hgroup : ∀ op terms, f ≠ .logical op terms)
    (hstops : f.stops = [f]) (h : f.compile = .ok c) : Mirrors f c ∧ LeafByLeaf f c := by
  obtain ⟨field, hc⟩ := field_of_compile hgroup h
  refine ⟨.condition hstops hc h, ?_⟩
  rw [LeafByLeaf, hstops, leaves_of_field hc]
  exact .cons h .nil

theorem leafByLeaf_join {op : Connective} {terms : List Filter} {cs : List Clause}
    (hne : terms ≠ []) (h : List.Forall₂ LeafByLeaf terms cs) :
    LeafByLeaf (.logical op terms) (op.join cs) := by
  rw [LeafByLeaf, stops_logical op hne, leaves_join]
  exact List.rel_flatMap h fun _ _ h => h

theorem mirrors_of_compile {f : Filter} {c : Clause} (h : f.compile = .ok c) :
    Mirrors f.collapse c ∧ LeafByLeaf f c := by
  induction f generalizing c with
  | logical op terms ih =>
    by_cases hone : terms.length = 1
    · obtain ⟨t, rfl⟩ := List.length_eq_one_iff.mp hone
      rw [compile_single] at h
      obtain ⟨htree, hleaves⟩ := ih t (by simp) h
      rw [collapse_single]
      refine ⟨htree, ?_⟩
      rw [LeafByLeaf, stops_logical op (by simp), List.flatMap_singleton]
      exact hleaves
    · obtain ⟨cs, hcs, hjoin⟩ := compile_logical_ok_iff.mp h
      have hlen := hcs.length_eq
      rcases hjoin with rfl | ⟨htwo, rfl⟩
      · exact absurd hlen hone
      have hparts := forall₂_of_mem hcs fun t ht d hd => ih t ht hd
      have htrees : List.Forall₂ Mirrors (terms.map Filter.collapse) cs :=
        List.forall₂_map_left_iff.mpr (hparts.imp fun _ _ hpart => hpart.1)
      have hne : terms ≠ [] := by
        intro hnil
        subst hnil
        simp [← hlen] at htwo
      rw [collapse_logical op hone]
      refine ⟨.group ?_ htrees, leafByLeaf_join hne (hparts.imp fun _ _ hpart => hpart.2)⟩
      rw [List.length_map, hlen]
      exact htwo
  | comparison op left right =>
    exact condition_mirrored (f := .comparison op left right) (by simp) rfl h
  | matchText field text =>
    exact condition_mirrored (f := .matchText field text) (by simp) rfl h
  | equalsAnyOf field values =>
    exact condition_mirrored (f := .equalsAnyOf field values) (by simp) rfl h
  | not term => cases h
  | fieldPath path => cases h
  | collectionNotEmpty path => cases h

/-- Collapsing a filter leaves what it compiles to, clause or error. The clause of a filter that
compiles mirrors the collapsed filter, and its leaves are those of the filter, compiled. -/
theorem clause_mirrors_collapsed (f : Filter) :
    f.compile = f.collapse.compile ∧
      ∀ c, f.compile = .ok c → Mirrors f.collapse c ∧
        List.Forall₂ (fun g d => g.compile = .ok d) f.stops c.leaves :=
  ⟨(compile_collapse f).symm, fun _ h => mirrors_of_compile h⟩

/-- Ages in a range or one of two names, with groups of one term around and inside. -/
def wrappedAges : Filter :=
  .logical .and
    [.logical .or
      [.logical .or
        [.logical .and
          [.comparison .ge (.field [⟨"Age", .int32⟩]) (.literal "18"),
           .comparison .lt (.field [⟨"Age", .int32⟩]) (.literal "65")]],
       .equalsAnyOf [⟨"Name", .string⟩] ["Ann", "Bob"]]]

def agesQuery : Clause :=
  .any
    [.all [.range "age" .gte (.long 18), .range "age" .lt (.long 65)],
     .terms "name" ["Ann", "Bob"]]

theorem wrappedAges_mirrored :
    wrappedAges.compile = .ok agesQuery ∧ Mirrors wrappedAges.collapse agesQuery ∧
      List.Forall₂ (fun g d => g.compile = .ok d) wrappedAges.stops agesQuery.leaves :=
  ⟨rfl, (clause_mirrors_collapsed wrappedAges).2 agesQuery rfl⟩

end ResourceQuery
