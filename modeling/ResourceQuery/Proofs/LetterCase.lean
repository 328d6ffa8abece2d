import ResourceQuery.Proofs.SearchAndCount

namespace ResourceQuery

/-- The name with its first letter in the other case, if that is an ASCII letter. -/
def flipLeading (name : String) : String :=
  match name.toList with
  | c :: cs => String.ofList ((if c.isUpper then c.toLower else c.toUpper) :: cs)
  | [] => ""

structure Attribute.Recased (a b : Attribute) : Prop where
  type : b.type = a.type
  name : b.name = a.name ∨ b.name = flipLeading a.name

def FieldPath.Recased : FieldPath → FieldPath → Prop :=
  List.Forall₂ Attribute.Recased

inductive Operand.Recased : Operand → Operand → Prop where
  | field {p q : FieldPath} (h : p.Recased q) : Recased (.field p) (.field q)
  | literal (value : String) : Recased (.literal value) (.literal value)
  | null : Recased .null .null
  | count {p q : FieldPath} (h : p.Recased q) : Recased (.count p) (.count q)

/-- The same tree, where each occurrence of a name is recased or not. -/
inductive Filter.Recased : Filter → Filter → Prop where
  | comparison (op : Comparison) {l l' r r' : Operand} (hl : l.Recased l') (hr : r.Recased r') :
      Recased (.comparison op l r) (.comparison op l' r')
  | matchText {p q : FieldPath} (h : p.Recased q) (text : String) :
      Recased (.matchText p text) (.matchText q text)
  | equalsAnyOf {p q : FieldPath} (h : p.Recased q) (values : List String) :
      Recased (.equalsAnyOf p values) (.equalsAnyOf q values)
  | logical (op : Connective) {ts us : List Filter} (h : List.Forall₂ Recased ts us) :
      Recased (.logical op ts) (.logical op us)
  | not {t u : Filter} (h : Recased t u) : Recased (.not t) (.not u)
  | fieldPath {p q : FieldPath} (h : p.Recased q) : Recased (.fieldPath p) (.fieldPath q)
  | collectionNotEmpty {p q : FieldPath} (h : p.Recased q) :
      Recased (.collectionNotEmpty p) (.collectionNotEmpty q)

structure SortKey.Recased (k l : SortKey) : Prop where
  path : k.path.Recased l.path
  ascending : l.ascending = k.ascending
  aggregated : l.aggregated = k.aggregated

/-- Errors of one kind. A literal or a type that cannot be queried is told in the same words. -/
structure CompileError.Alike (e f : CompileError) : Prop where
  kind : f.kind = e.kind
  same : e.kind = .literal ∨ e.kind = .fieldType → f = e

/-- Both runs go well and give related results, or they fail alike. -/
inductive Agree {α β : Type} (R : α → β → Prop) :
    Except CompileError α → Except CompileError β → Prop where
  | ok {a : α} {b : β} (h : R a b) : Agree R (.ok a) (.ok b)
  | error {e f : CompileError} (h : e.Alike f) : Agree R (.error e) (.error f)

theorem CompileError.Alike.refl (e : CompileError) : e.Alike e :=
  ⟨rfl, fun _ => rfl⟩

theorem CompileError.Alike.of_kind {e f : CompileError} (hkind : f.kind = e.kind)
    (hplain : decide (e.kind = .literal ∨ e.kind = .fieldType) = false) : e.Alike f := by
  refine ⟨hkind, ?_⟩
  intro h
  exact absurd h (of_decide_eq_false hplain)

section

variable {α β γ δ : Type} {R : α → β → Prop} {S : γ → δ → Prop}

theorem Agree.refl (x : Except CompileError α) : Agree Eq x x := by
  cases x with
  | error e => exact .error (.refl e)
  | ok a => exact .ok rfl

theorem Agree.bind {x : Except CompileError α} {y : Except CompileError β}
    {f : α → Except CompileError γ} {g : β → Except CompileError δ} (h : Agree R x y)
    (hf : ∀ a b, R a b → Agree S (f a) (g b)) : Agree S (x >>= f) (y >>= g) := by
  cases h with
  | ok h => exact hf _ _ h
  | error h => exact .error h

theorem Agree.map {x : Except CompileError α} {y : Except CompileError β} {f : α → γ} {g : β → δ}
    (h : Agree R x y) (hf : ∀ a b, R a b → S (f a) (g b)) : Agree S (f <$> x) (g <$> y) := by
  cases h with
  | ok h => exact .ok (hf _ _ h)
  | error h => exact .error h

theorem Agree.eq_ok {x y : Except CompileError α} {a : α} (h : Agree Eq x y) (hx : x = .ok a) :
    y = .ok a := by
  cases h with
  | ok h =>
    rw [← h]
    exact hx
  | error _ => cases hx

/-- Step by step through two lists: the first pair of steps that fails stops both runs. -/
theorem Agree.mapM {xs : List α} {ys : List β} {f : α → Except CompileError γ}
    {g : β → Except CompileError δ} (h : List.Forall₂ (fun x y => Agree S (f x) (g y)) xs ys) :
    Agree (List.Forall₂ S) (xs.mapM f) (ys.mapM g) := by
  induction h with
  | nil => exact .ok .nil
  | cons hxy _ ih =>
    rw [List.mapM_cons, List.mapM_cons]
    apply hxy.bind
    intro c d hcd
    apply ih.bind
    intro cs ds hcs
    exact .ok (.cons hcd hcs)

end

theorem toLower_flip (c : Char) :
    (if c.isUpper then c.toLower else c.toUpper).toLower = c.toLower := by
  split
  · exact Char.toLower_toLower_eq_toLower c
  · exact Char.toLower_toUpper_eq_toLower c

theorem normalizeName_flipLeading (name : String) :
    normalizeName (flipLeading name) = normalizeName name := by
  rw [← String.toList_inj, toList_normalizeName, toList_normalizeName, flipLeading]
  cases name.toList with
  | nil => rfl
  | cons c cs => rw [String.toList_ofList, List.modifyHead_cons, toLower_flip, List.modifyHead_cons]

namespace Attribute.Recased

variable {a b : Attribute}

theorem normalizeName (h : a.Recased b) :
    ResourceQuery.normalizeName b.name = ResourceQuery.normalizeName a.name := by
  rcases h.name with hname | hname
  · rw [hname]
  · rw [hname, normalizeName_flipLeading]

theorem isIdentifier (h : a.Recased b) : b.isIdentifier = a.isIdentifier := by
  rw [Attribute.isIdentifier, Attribute.isIdentifier, h.type, h.normalizeName]

theorem targetField (h : a.Recased b) (literals : List String) :
    b.targetField literals = a.targetField literals := by
  rw [Attribute.targetField, Attribute.targetField, h.isIdentifier, h.normalizeName]

theorem comparedAs (h : a.Recased b) (op : Comparison) (literal : String) :
    b.comparedAs op literal = a.comparedAs op literal := by
  rw [Attribute.comparedAs, Attribute.comparedAs, h.isIdentifier, h.normalizeName, h.type]

end Attribute.Recased

theorem FieldPath.Recased.attribute {p q : FieldPath} (h : p.Recased q) :
    Agree Attribute.Recased p.attribute q.attribute := by
  cases h with
  | nil => exact .error (.refl _)
  | cons hab htail =>
    cases htail with
    | nil => exact .ok hab
    | cons _ _ => exact .error (.of_kind rfl rfl)

theorem Operand.Recased.path {l m : Operand} (h : l.Recased m) :
    Agree FieldPath.Recased l.path m.path := by
  cases h with
  | field h => exact .ok h
  | literal value => exact .error (.refl _)
  | null => exact .error (.refl _)
  | count h => exact .error (.of_kind rfl rfl)

theorem Operand.Recased.constant {l m : Operand} (h : l.Recased m) :
    Agree Eq l.constant m.constant := by
  cases h with
  | field h => exact .error (.of_kind rfl rfl)
  | literal value => exact .ok rfl
  | null => exact .error (.refl _)
  | count h => exact .error (.of_kind rfl rfl)

theorem constraint_agree {op : Comparison} {l l' r r' : Operand} (hl : l.Recased l')
    (hr : r.Recased r') : Agree Eq (constraint op l r) (constraint op l' r') := by
  unfold constraint
  apply hl.path.bind
  intro p q hpath
  apply hpath.attribute.bind
  intro a b hattribute
  apply hr.constant.bind
  rintro literal _ rfl
  rw [hattribute.comparedAs]
  exact .refl _

theorem Filter.Recased.compile {f g : Filter} (h : f.Recased g) :
    Agree Eq f.compile g.compile := by
  induction f generalizing g with
  | comparison op l r =>
    cases h with
    | comparison _ hl hr =>
      rw [Filter.compile, Filter.compile]
      apply (constraint_agree hl hr).map
      rintro k _ rfl
      rfl
  | matchText p text =>
    cases h with
    | matchText h _ =>
      rw [Filter.compile, Filter.compile]
      apply h.attribute.bind
      intro a b hattribute
      rw [hattribute.targetField]
      exact .refl _
  | equalsAnyOf p values =>
    cases h with
    | equalsAnyOf h _ =>
      rw [Filter.compile, Filter.compile]
      apply h.attribute.bind
      intro a b hattribute
      rw [hattribute.targetField]
      exact .refl _
  | logical op ts ih =>
    cases h with
    | logical _ h =>
      rw [Filter.compile, Filter.compile, compileAll_eq_mapM, compileAll_eq_mapM]
      apply (Agree.mapM (forall₂_of_mem h fun t ht u => ih t ht)).bind
      intro cs ds hclauses
      rw [List.forall₂_eq_eq_eq] at hclauses
      rw [hclauses]
      exact .refl _
  | not t ih =>
    cases h with
    | not h => exact .error (.refl _)
  | fieldPath p =>
    cases h with
    | fieldPath h => exact .error (.of_kind rfl rfl)
  | collectionNotEmpty p =>
    cases h with
    | collectionNotEmpty h => exact .error (.of_kind rfl rfl)

theorem SortKey.Recased.compile {k l : SortKey} (h : k.Recased l) :
    Agree Eq k.compile l.compile := by
  unfold SortKey.compile
  apply h.path.attribute.bind
  intro a b hattribute
  rw [h.aggregated, h.ascending, hattribute.normalizeName]
  cases k.aggregated with
  | true => exact .error (.of_kind rfl rfl)
  | false => exact .refl _

/-- The engine's own order is recognised under each of its names. -/
theorem isIdentifierOrder_recased {ks ls : List SortKey} (h : List.Forall₂ SortKey.Recased ks ls) :
    isIdentifierOrder ls = isIdentifierOrder ks := by
  cases h with
  | nil => rfl
  | @cons k l ks ls hkey h =>
    obtain ⟨p, _, _⟩ := k
    obtain ⟨q, ascending, aggregated⟩ := l
    obtain ⟨hpath, rfl, rfl⟩ := hkey
    cases h with
    | cons _ _ => simp [isIdentifierOrder]
    | nil =>
      cases hpath with
      | nil => rfl
      | cons hab hpath =>
        cases hpath with
        | cons _ _ => simp [isIdentifierOrder]
        | nil => cases ascending <;> cases aggregated <;> simp [isIdentifierOrder, hab.isIdentifier]

theorem compileSort_recased {ks ls : List SortKey} (h : List.Forall₂ SortKey.Recased ks ls) :
    Agree Eq (compileSort ks) (compileSort ls) := by
  have hkeys : Agree (List.Forall₂ Eq) (compileSort ks) (compileSort ls) :=
    .mapM (h.imp fun _ _ hkey => hkey.compile)
  rwa [List.forall₂_eq_eq_eq] at hkeys

theorem Options.compileSort_recased (o : Options) {sort sort' : Option (List SortKey)}
    (h : Option.Rel (List.Forall₂ SortKey.Recased) sort sort') :
    Agree Eq (o.compileSort sort) (o.compileSort sort') := by
  cases h with
  | none => exact .ok rfl
  | @some ks ls h =>
    have hsame : o.suppresses ls = o.suppresses ks := by
      rw [suppresses, suppresses, isIdentifierOrder_recased h]
    by_cases hs : o.suppresses ks
    · rw [compileSort_of_suppresses hs, compileSort_of_suppresses (hsame ▸ hs)]
      exact .ok rfl
    · rw [compileSort_of_kept hs, compileSort_of_kept (hsame ▸ hs)]
      exact ResourceQuery.compileSort_recased h

theorem compileFilter_recased {filter filter' : Option Filter}
    (h : Option.Rel Filter.Recased filter filter') :
    Agree Eq (compileFilter filter) (compileFilter filter') := by
  cases h with
  | none => exact .ok rfl
  | some h =>
    apply h.compile.map
    rintro c _ rfl
    rfl

/-- Whichever names of a filter and a sort are recased, the search and the count are the same
requests as before; or they fail as before, with an error of the same kind, which is the same error
where it is about a literal or a type. -/
theorem requests_ignore_leading_case (o : Options) (index : String) (page : Option Pagination)
    {filter filter' : Option Filter} {sort sort' : Option (List SortKey)}
    (hfilter : Option.Rel Filter.Recased filter filter')
    (hsort : Option.Rel (List.Forall₂ SortKey.Recased) sort sort') :
    Agree Eq (o.search index filter sort page) (o.search index filter' sort' page) ∧
      Agree Eq (countRequest index filter) (countRequest index filter') := by
  have hquery := compileFilter_recased hfilter
  refine ⟨?_, ?_⟩
  · apply hquery.bind
    rintro query _ rfl
    apply (o.compileSort_recased hsort).bind
    rintro clauses _ rfl
    exact .refl _
  · apply hquery.bind
    rintro query _ rfl
    exact .refl _

/-- The key of a book is found as the identifier, and its ascending order left to the engine, under
both spellings of its name. -/
theorem bookId_in_either_case :
    Option.Rel Filter.Recased (some (.comparison .eq (.field [⟨"Id", .int64⟩]) (.literal "42")))
        (some (.comparison .eq (.field [⟨"id", .int64⟩]) (.literal "42"))) ∧
      Option.Rel (List.Forall₂ SortKey.Recased) (some [⟨[⟨"id", .string⟩], true, false⟩])
        (some [⟨[⟨"Id", .string⟩], true, false⟩]) ∧
      Options.default.search "books"
          (some (.comparison .eq (.field [⟨"id", .int64⟩]) (.literal "42")))
          (some [⟨[⟨"Id", .string⟩], true, false⟩]) (some ⟨some 10, 2⟩) =
        .ok ⟨"books", some (.term "databaseId" (.long 42)), [], some 10, some 10⟩ ∧
      countRequest "books" (some (.comparison .eq (.field [⟨"id", .int64⟩]) (.literal "42"))) =
        .ok ⟨"books", some (.term "databaseId" (.long 42))⟩ := by
  have hfilter : Option.Rel Filter.Recased
      (some (.comparison .eq (.field [⟨"Id", .int64⟩]) (.literal "42")))
      (some (.comparison .eq (.field [⟨"id", .int64⟩]) (.literal "42"))) :=
    .some (.comparison .eq (.field (.cons ⟨rfl, .inr rfl⟩ .nil)) (.literal "42"))
  have hsort : Option.Rel (List.Forall₂ SortKey.Recased) (some [⟨[⟨"id", .string⟩], true, false⟩])
      (some [⟨[⟨"Id", .string⟩], true, false⟩]) :=
    .some (.cons ⟨.cons ⟨rfl, .inr rfl⟩ .nil, rfl, rfl⟩ .nil)
  obtain ⟨hsearch, hcount⟩ := requests_ignore_leading_case Options.default "books"
    (some ⟨some 10, 2⟩) hfilter hsort
  refine ⟨hfilter, hsort, hsearch.eq_ok ?_, hcount.eq_ok ?_⟩
  · simp only [Options.search, compileFilter, Filter.compile]
    rfl
  · simp only [countRequest, compileFilter, Filter.compile]
    rfl

end ResourceQuery
