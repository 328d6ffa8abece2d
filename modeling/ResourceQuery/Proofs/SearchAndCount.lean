import ResourceQuery.Compile.Request
import ResourceQuery.Proofs.Obstacles

namespace ResourceQuery

/-- The one sort that the engine's own order satisfies. -/
def OrdersByIdentifier (sort : Option (List SortKey)) (a : Attribute) : Prop :=
  a.Identifies ∧ sort = some [⟨[a], true, false⟩]

theorem isIdentifierOrder_iff {keys : List SortKey} :
    isIdentifierOrder keys ↔ ∃ a, OrdersByIdentifier (some keys) a := by
  constructor
  · intro h
    unfold isIdentifierOrder at h
    split at h
    · next a => exact ⟨a, isIdentifier_iff.mp h, rfl⟩
    · cases h
  · intro h
    obtain ⟨a, ha, hkeys⟩ := h
    cases hkeys
    exact isIdentifier_iff.mpr ha

theorem compileSort_of_identifier (a : Attribute) :
    compileSort [⟨[a], true, false⟩] = .ok [⟨normalizeName a.name, .asc⟩] :=
  rfl

theorem Options.compileSort_of_suppresses {o : Options} {keys : List SortKey}
    (h : o.suppresses keys) : o.compileSort (some keys) = .ok [] := by
  rw [Options.compileSort, if_pos h]

theorem Options.compileSort_of_kept {o : Options} {keys : List SortKey}
    (h : ¬ o.suppresses keys) : o.compileSort (some keys) = ResourceQuery.compileSort keys := by
  rw [Options.compileSort, if_neg h]

/-- A sort that is left out would have compiled, so no error of a sort is lost. -/
theorem Options.compileSort_error_iff {o : Options} {sort : Option (List SortKey)}
    {e : CompileError} :
    o.compileSort sort = .error e ↔
      ∃ keys, sort = some keys ∧ ResourceQuery.compileSort keys = .error e := by
  cases sort with
  | none => simp [Options.compileSort]
  | some keys =>
    simp only [Option.some.injEq, exists_eq_left']
    by_cases hs : o.suppresses keys
    · have hidentifier : isIdentifierOrder keys := (Bool.and_eq_true_iff.mp hs).2
      obtain ⟨a, -, hkeys⟩ := isIdentifierOrder_iff.mp hidentifier
      cases hkeys
      rw [compileSort_of_suppresses hs, compileSort_of_identifier]
      simp
    · rw [compileSort_of_kept hs]

/-- What suppression makes of the clauses of a sort. -/
inductive Suppression (sort : Option (List SortKey)) :
    List SortClause → List SortClause → Prop where
  | dropped (a : Attribute) (h : OrdersByIdentifier sort a) :
      Suppression sort [] [⟨normalizeName a.name, .asc⟩]
  | kept (h : ∀ a, ¬ OrdersByIdentifier sort a) (clauses : List SortClause) :
      Suppression sort clauses clauses

theorem compileSort_of_other {sort : Option (List SortKey)} (h : ∀ a, ¬ OrdersByIdentifier sort a)
    (o p : Options) : o.compileSort sort = p.compileSort sort := by
  cases sort with
  | none => rfl
  | some keys =>
    have hother : ¬ isIdentifierOrder keys := by
      intro hi
      obtain ⟨a, ha⟩ := isIdentifierOrder_iff.mp hi
      exact h a ha
    have hkept (o : Options) : ¬ o.suppresses keys :=
      fun hs => hother (Bool.and_eq_true_iff.mp hs).2
    rw [Options.compileSort_of_kept (hkept o), Options.compileSort_of_kept (hkept p)]

theorem suppression_of_compileSort {sort : Option (List SortKey)} {clauses : List SortClause}
    (h : Options.compileSort ⟨false⟩ sort = .ok clauses) :
    ∃ left, Options.compileSort ⟨true⟩ sort = .ok left ∧ Suppression sort left clauses := by
  by_cases hidentifier : ∃ a, OrdersByIdentifier sort a
  · obtain ⟨a, ha, rfl⟩ := hidentifier
    have hsuppressed : Options.suppresses ⟨true⟩ [⟨[a], true, false⟩] :=
      isIdentifierOrder_iff.mpr ⟨a, ha, rfl⟩
    have hclauses : clauses = [⟨normalizeName a.name, .asc⟩] := (Except.ok.inj h).symm
    subst hclauses
    exact ⟨[], Options.compileSort_of_suppresses hsuppressed, .dropped a ⟨ha, rfl⟩⟩
  · have hother : ∀ a, ¬ OrdersByIdentifier sort a := fun a ha => hidentifier ⟨a, ha⟩
    exact ⟨clauses, by rw [compileSort_of_other hother ⟨true⟩ ⟨false⟩, h], .kept hother clauses⟩

section

variable {o : Options} {index : String} {filter : Option Filter} {sort : Option (List SortKey)}
  {page : Option Pagination} {e : CompileError}

theorem search_ok_iff {request : SearchRequest} :
    o.search index filter sort page = .ok request ↔
      ∃ query clauses, compileFilter filter = .ok query ∧ o.compileSort sort = .ok clauses ∧
        request = ⟨index, query, clauses, (page.bind Pagination.window).map Prod.fst,
          (page.bind Pagination.window).map Prod.snd⟩ := by
  simp only [Options.search, bind_ok_iff, pure_eq_ok, Except.ok.injEq, exists_and_left,
    @eq_comm _ request]

/-- The filter is compiled first. -/
theorem search_error_iff :
    o.search index filter sort page = .error e ↔
      compileFilter filter = .error e ∨
        ∃ query, compileFilter filter = .ok query ∧ o.compileSort sort = .error e := by
  simp [Options.search, bind_error_iff, pure_eq_ok]

theorem count_ok_iff {request : CountRequest} :
    countRequest index filter = .ok request ↔
      ∃ query, compileFilter filter = .ok query ∧ request = ⟨index, query⟩ := by
  simp only [countRequest, bind_ok_iff, pure_eq_ok, Except.ok.injEq, @eq_comm _ request]

theorem count_error_iff :
    countRequest index filter = .error e ↔ compileFilter filter = .error e := by
  simp [countRequest, bind_error_iff, pure_eq_ok]

end

/-- An object with some of its members removed. -/
def Json.without (keys : List String) : Json → Json
  | .object members => .object (members.filter fun m => !keys.contains m.1)
  | v => v

theorem Json.filter_memberIf (key : String) (v : Option Json) (p : String × Json → Bool)
    (keep : Bool) (h : ∀ w, p (key, w) = keep) :
    (Json.memberIf key v).filter p = if keep then Json.memberIf key v else [] := by
  cases v with
  | none => cases keep <;> rfl
  | some w => cases keep <;> simp [Json.memberIf, h]

theorem count_body_of_search (r : SearchRequest) :
    CountRequest.body ⟨r.index, r.query⟩ = r.body.without ["sort", "from", "size"] := by
  simp only [SearchRequest.body, Json.without, CountRequest.body, List.filter_append]
  rw [Json.filter_memberIf "from" _ _ false (fun _ => rfl),
    Json.filter_memberIf "query" _ _ true (fun _ => rfl),
    Json.filter_memberIf "size" _ _ false (fun _ => rfl),
    Json.filter_memberIf "sort" _ _ false (fun _ => rfl)]
  simp

/-- A filter that stops a count stops every search in the same way. A search that compiles has the
index and the query of the count, and its body but for order and page. And where the count
compiles, a search fails with the errors of its sort and with no others. -/
theorem search_agrees_with_count (o : Options) (index : String) (filter : Option Filter)
    (sort : Option (List SortKey)) (page : Option Pagination) :
    (∀ e, countRequest index filter = .error e → o.search index filter sort page = .error e) ∧
    (∀ request, o.search index filter sort page = .ok request →
      ∃ count, countRequest index filter = .ok count ∧ count.index = request.index ∧
        count.query = request.query ∧
        count.body = request.body.without ["sort", "from", "size"]) ∧
    ∀ count, countRequest index filter = .ok count → ∀ e,
      (o.search index filter sort page = .error e ↔
        ∃ keys, sort = some keys ∧ compileSort keys = .error e) := by
  refine ⟨?_, ?_, ?_⟩
  · intro e h
    exact search_error_iff.mpr (.inl (count_error_iff.mp h))
  · intro request h
    obtain ⟨query, clauses, hquery, -, rfl⟩ := search_ok_iff.mp h
    have hbody := count_body_of_search ⟨index, query, clauses,
      (page.bind Pagination.window).map Prod.fst, (page.bind Pagination.window).map Prod.snd⟩
    exact ⟨⟨index, query⟩, count_ok_iff.mpr ⟨query, hquery, rfl⟩, rfl, rfl, hbody⟩
  · intro count h e
    obtain ⟨query, hquery, -⟩ := count_ok_iff.mp h
    rw [search_error_iff, hquery, Options.compileSort_error_iff]
    simp

/-- Negations stop the count and the search; a sort by the number of tags stops the search alone. -/
theorem tags_search_agrees_with_count :
    (countRequest "books" (some (.not (.matchText [⟨"Title", .string⟩] "sea"))) = .error .negation ∧
      Options.default.search "books" (some (.not (.matchText [⟨"Title", .string⟩] "sea"))) none
        none = .error .negation) ∧
    (countRequest "books" (some (.matchText [⟨"Title", .string⟩] "sea")) =
        .ok ⟨"books", some (.fuzzy "title" "sea")⟩ ∧
      Options.default.search "books" (some (.matchText [⟨"Title", .string⟩] "sea"))
        (some [⟨[⟨"Tags", .collection⟩], true, true⟩]) (some ⟨some 10, 2⟩) =
        .error (.aggregateSort [⟨"Tags", .collection⟩])) ∧
    ∃ count, countRequest "books" (some (.matchText [⟨"Title", .string⟩] "sea")) = .ok count ∧
      count.index = "books" ∧ count.query = some (.fuzzy "title" "sea") ∧
      count.body = (SearchRequest.body ⟨"books", some (.fuzzy "title" "sea"), [⟨"title", .desc⟩],
        some 10, some 10⟩).without ["sort", "from", "size"] := by
  have hcount : countRequest "books" (some (.matchText [⟨"Title", .string⟩] "sea")) =
      .ok ⟨"books", some (.fuzzy "title" "sea")⟩ := by
    simp only [countRequest, compileFilter, Filter.compile]
    rfl
  have hsearch : Options.default.search "books" (some (.matchText [⟨"Title", .string⟩] "sea"))
      (some [⟨[⟨"Title", .string⟩], false, false⟩]) (some ⟨some 10, 2⟩) =
      .ok ⟨"books", some (.fuzzy "title" "sea"), [⟨"title", .desc⟩], some 10, some 10⟩ := by
    simp only [Options.search, compileFilter, Filter.compile]
    rfl
  have hnegation : countRequest "books" (some (.not (.matchText [⟨"Title", .string⟩] "sea"))) =
      .error .negation := by
    simp only [countRequest, compileFilter, Filter.compile]
    rfl
  refine ⟨⟨hnegation, ?_⟩, ⟨hcount, ?_⟩, ?_⟩
  · exact (search_agrees_with_count _ _ _ _ _).1 _ hnegation
  · exact ((search_agrees_with_count _ _ _ _ _).2.2 _ hcount _).mpr ⟨_, rfl, rfl⟩
  · exact (search_agrees_with_count _ _ _ _ _).2.1 _ hsearch

/-- With suppression and without it a search fails alike, or leads to the same request but for a sort
by the identifier alone. So no error of a sort is hidden, and no key goes missing that descends, is
aggregated, follows a relationship or stands beside another one. -/
theorem suppression_changes_identifier_order_only (index : String) (filter : Option Filter)
    (sort : Option (List SortKey)) (page : Option Pagination) :
    ((∃ e, Options.search ⟨true⟩ index filter sort page = .error e ∧
        Options.search ⟨false⟩ index filter sort page = .error e) ∨
      ∃ r s, Options.search ⟨true⟩ index filter sort page = .ok r ∧
        Options.search ⟨false⟩ index filter sort page = .ok s ∧
        r.index = s.index ∧ r.query = s.query ∧ r.start = s.start ∧ r.size = s.size ∧
        Suppression sort r.sort s.sort) ∧
    ∀ keys, sort = some keys →
      (∀ query, compileFilter filter = .ok query → ∀ e,
        (Options.search ⟨true⟩ index filter sort page = .error e ↔ compileSort keys = .error e)) ∧
      ((2 ≤ keys.length ∨
          ∃ k ∈ keys, k.ascending = false ∨ k.aggregated = true ∨ 2 ≤ k.path.length) →
        Options.search ⟨true⟩ index filter sort page =
          Options.search ⟨false⟩ index filter sort page) := by
  refine ⟨?_, ?_⟩
  · cases hfilter : compileFilter filter with
    | error e =>
      exact .inl ⟨e, search_error_iff.mpr (.inl hfilter), search_error_iff.mpr (.inl hfilter)⟩
    | ok query =>
      cases hsort : Options.compileSort ⟨false⟩ sort with
      | error e =>
        have hsuppressed : Options.compileSort ⟨true⟩ sort = .error e :=
          Options.compileSort_error_iff.mpr (Options.compileSort_error_iff.mp hsort)
        exact .inl ⟨e, search_error_iff.mpr (.inr ⟨query, hfilter, hsuppressed⟩),
          search_error_iff.mpr (.inr ⟨query, hfilter, hsort⟩)⟩
      | ok clauses =>
        obtain ⟨left, hleft, hsuppression⟩ := suppression_of_compileSort hsort
        exact .inr ⟨_, _, search_ok_iff.mpr ⟨query, left, hfilter, hleft, rfl⟩,
          search_ok_iff.mpr ⟨query, clauses, hfilter, hsort, rfl⟩, rfl, rfl, rfl, rfl,
          hsuppression⟩
  · rintro keys rfl
    refine ⟨?_, ?_⟩
    · intro query hfilter e
      rw [search_error_iff, hfilter, Options.compileSort_error_iff]
      simp
    · intro h
      have hother : ∀ a, ¬ OrdersByIdentifier (some keys) a := by
        rintro a ⟨-, hkeys⟩
        cases hkeys
        simp at h
      rw [Options.search, Options.search, compileSort_of_other hother ⟨true⟩ ⟨false⟩]

/-- A sort by the key of a book is left out where it ascends, and kept where it descends. -/
theorem ascending_keys_left_out :
    (Options.search ⟨true⟩ "books" none (some [⟨[⟨"Key", .identifier⟩], true, false⟩]) none =
        .ok ⟨"books", none, [], none, none⟩ ∧
      Options.search ⟨false⟩ "books" none (some [⟨[⟨"Key", .identifier⟩], true, false⟩]) none =
        .ok ⟨"books", none, [⟨"key", .asc⟩], none, none⟩) ∧
    Options.search ⟨true⟩ "books" none (some [⟨[⟨"Key", .identifier⟩], false, false⟩]) none =
      Options.search ⟨false⟩ "books" none (some [⟨[⟨"Key", .identifier⟩], false, false⟩]) none := by
  have hdescending := (suppression_changes_identifier_order_only "books" none
    (some [⟨[⟨"Key", .identifier⟩], false, false⟩]) none).2 _ rfl
  exact ⟨⟨rfl, rfl⟩, hdescending.2 (.inr ⟨_, List.mem_singleton_self _, .inl rfl⟩)⟩

end ResourceQuery
