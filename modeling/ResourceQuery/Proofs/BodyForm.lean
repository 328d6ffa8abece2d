import ResourceQuery.Compile.Request
import ResourceQuery.Proofs.Compiling

namespace ResourceQuery

/-- What a field is compared with: a number that has a JSON text, or a string. -/
inductive ValueForm : Json → Prop where
  | integer (n : Int) : ValueForm (.number (.integer n))
  | real {x : Number.Binary64} (hx : x.isFinite) : ValueForm (.number (.real x))
  | text (s : String) : ValueForm (.string s)

inductive QueryForm : Json → Prop where
  | term (field : String) {v : Json} (hv : ValueForm v) :
      QueryForm (.single "term" (.single field (.single "value" v)))
  | range (field : String) {bound : String} (hb : bound ∈ ["gt", "gte", "lt", "lte"]) {v : Json}
      (hv : ValueForm v) : QueryForm (.single "range" (.single field (.single bound v)))
  | terms (field : String) (texts : List String) :
      QueryForm (.single "terms" (.single field (.array (texts.map .string))))
  | fuzzy (field text : String) :
      QueryForm (.single "match" (.single field
        (.object [("fuzziness", .string "AUTO"), ("query", .string text)])))
  | must {qs : List Json} (two : 2 ≤ qs.length) (each : ∀ q ∈ qs, QueryForm q) :
      QueryForm (.single "bool" (.single "must" (.array qs)))
  | should {qs : List Json} (two : 2 ≤ qs.length) (each : ∀ q ∈ qs, QueryForm q) :
      QueryForm (.single "bool"
        (.object [("minimum_should_match", .number (.integer 1)), ("should", .array qs)]))

inductive SortForm : Json → Prop where
  | mk (field : String) {order : String} (ho : order ∈ ["asc", "desc"]) :
      SortForm (.single field (.single "order" (.string order)))

/-- The members of the body of a search. Offsets fit 64 bits, and lengths 32. -/
structure SearchForm (members : List (String × Json)) : Prop where
  keys : (members.map Prod.fst).Sublist ["from", "query", "size", "sort"]
  page : members.lookup "from" = none ∧ members.lookup "size" = none ∨
    ∃ start size : Nat, start < 2 ^ 64 ∧ size < 2 ^ 32 ∧
      members.lookup "from" = some (.number (.integer start)) ∧
      members.lookup "size" = some (.number (.integer size))
  sort : ∀ v, members.lookup "sort" = some v →
    ∃ keys, keys ≠ [] ∧ v = .array keys ∧ ∀ k ∈ keys, SortForm k
  query : ∀ v, members.lookup "query" = some v → QueryForm v

/-- The members of the body of a count. -/
def CountForm (members : List (String × Json)) : Prop :=
  members = [] ∨ ∃ q, QueryForm q ∧ members = [("query", q)]

namespace Json

/-- The value occurs in another one, at any depth. -/
inductive Within (v : Json) : Json → Prop where
  | here : Within v v
  | item {items : List Json} {w : Json} (hw : w ∈ items) (h : Within v w) : Within v (.array items)
  | member {members : List (String × Json)} {m : String × Json} (hm : m ∈ members)
      (h : Within v m.2) : Within v (.object members)

/-- Null, or a number that is written as null for want of a text. -/
def IsVoid : Json → Prop
  | .null => True
  | .number (.real x) => ¬ x.isFinite
  | _ => False

def NullFree (w : Json) : Prop :=
  ∀ v, Within v w → ¬ v.IsVoid

theorem nullFree_string (s : String) : NullFree (.string s) := by
  intro v h
  cases h
  exact not_false

theorem nullFree_integer (n : Int) : NullFree (.number (.integer n)) := by
  intro v h
  cases h
  exact not_false

theorem nullFree_array {items : List Json} (h : ∀ w ∈ items, NullFree w) :
    NullFree (.array items) := by
  intro v hv
  cases hv with
  | here => exact not_false
  | item hw hv => exact h _ hw v hv

theorem nullFree_object {members : List (String × Json)} (h : ∀ m ∈ members, NullFree m.2) :
    NullFree (.object members) := by
  intro v hv
  cases hv with
  | here => exact not_false
  | member hm hv => exact h _ hm v hv

theorem nullFree_single {key : String} {w : Json} (h : NullFree w) : NullFree (.single key w) := by
  apply nullFree_object
  intro m hm
  cases List.mem_singleton.mp hm
  exact h

theorem lookup_memberIf (key : String) (v : Option Json) (members : List (String × Json))
    (k : String) :
    (memberIf key v ++ members).lookup k =
      if k = key then v.or (members.lookup k) else members.lookup k := by
  cases v with
  | none => simp [memberIf]
  | some v =>
    by_cases h : k = key
    · simp [memberIf, h]
    · have hk : (k == key) = false := by simp [h]
      simp [memberIf, List.lookup_cons, h, hk]

theorem lookup_memberIf_end (key : String) (v : Option Json) (k : String) :
    (memberIf key v).lookup k = if k = key then v else none := by
  have h := lookup_memberIf key v [] k
  simpa using h

theorem lookup_of_mem {members : List (String × Json)} (hkeys : (members.map Prod.fst).Nodup)
    {m : String × Json} (hm : m ∈ members) : members.lookup m.1 = some m.2 := by
  obtain ⟨before, after, rfl⟩ := List.append_of_mem hm
  apply List.lookup_eq_some_iff.mpr
  refine ⟨before, after, rfl, ?_⟩
  intro n hn
  rw [List.map_append, List.nodup_append] at hkeys
  have hne := hkeys.2.2 n.1 (List.mem_map_of_mem hn) m.1 (by simp)
  simpa using hne.symm

theorem memberIf_keys (key : String) (v : Option Json) :
    ((memberIf key v).map Prod.fst).Sublist [key] := by
  cases v <;> simp [memberIf]

end Json

open Json (NullFree)

theorem ValueForm.nullFree {v : Json} (h : ValueForm v) : NullFree v := by
  cases h with
  | integer n => exact Json.nullFree_integer n
  | real hx =>
    intro v hv
    cases hv
    simpa [Json.IsVoid] using hx
  | text s => exact Json.nullFree_string s

theorem QueryForm.nullFree {q : Json} (h : QueryForm q) : NullFree q := by
  induction h with
  | term field hv =>
    exact Json.nullFree_single (Json.nullFree_single (Json.nullFree_single hv.nullFree))
  | range field hb hv =>
    exact Json.nullFree_single (Json.nullFree_single (Json.nullFree_single hv.nullFree))
  | terms field texts =>
    refine Json.nullFree_single (Json.nullFree_single (Json.nullFree_array ?_))
    simp [Json.nullFree_string]
  | fuzzy field text =>
    refine Json.nullFree_single (Json.nullFree_single (Json.nullFree_object ?_))
    simp [Json.nullFree_string]
  | must two each ih => exact Json.nullFree_single (Json.nullFree_single (Json.nullFree_array ih))
  | should two each ih =>
    refine Json.nullFree_single (Json.nullFree_object ?_)
    simp [Json.nullFree_integer, Json.nullFree_array ih]

theorem SortForm.nullFree {k : Json} (h : SortForm k) : NullFree k := by
  cases h with
  | mk field ho => exact Json.nullFree_single (Json.nullFree_single (Json.nullFree_string _))

def Scalar.HasText : Scalar → Prop
  | .double x => x.isFinite
  | _ => True

/-- What compiling leaves of a filter: groups of two clauses at least, and values with a text. -/
inductive Clause.Compiled : Clause → Prop where
  | term (field : String) {value : Scalar} (hv : value.HasText) : Compiled (.term field value)
  | terms (field : String) (values : List String) : Compiled (.terms field values)
  | range (field : String) (bound : Bound) {value : Scalar} (hv : value.HasText) :
      Compiled (.range field bound value)
  | fuzzy (field text : String) : Compiled (.fuzzy field text)
  | group (op : Connective) {cs : List Clause} (two : 2 ≤ cs.length) (each : ∀ c ∈ cs, Compiled c) :
      Compiled (op.join cs)

theorem ScalarClass.hasText_of_parse {c : ScalarClass} {literal : String} {v : Scalar}
    (h : c.parse? literal = some v) : v.HasText := by
  cases c with
  | float =>
    obtain ⟨x, hx, rfl⟩ := Option.map_eq_some_iff.mp h
    exact (Option.filter_eq_some_iff.mp hx).2
  | integer =>
    obtain ⟨n, -, rfl⟩ := Option.map_eq_some_iff.mp h
    trivial
  | dateTime =>
    obtain ⟨t, -, rfl⟩ := Option.map_eq_some_iff.mp h
    trivial
  | text =>
    cases h
    trivial

theorem Constraint.clause_compiled {k : Constraint} (h : k.value.HasText) : k.clause.Compiled := by
  obtain ⟨field, expected, op, value⟩ := k
  cases op with
  | eq => exact .term field h
  | gt => exact .range field .gt h
  | ge => exact .range field .gte h
  | lt => exact .range field .lt h
  | le => exact .range field .lte h

theorem Filter.compiled_of_compile {f : Filter} {c : Clause} (h : f.compile = .ok c) :
    c.Compiled := by
  induction f generalizing c with
  | comparison op left right =>
    obtain ⟨a, literal, expected, value, -, -, -, hv, -, rfl⟩ := compile_comparison_ok_iff.mp h
    exact Constraint.clause_compiled (ScalarClass.hasText_of_parse hv)
  | matchText field text =>
    obtain ⟨a, -, rfl⟩ := compile_matchText_ok_iff.mp h
    exact .fuzzy _ text
  | equalsAnyOf field values =>
    obtain ⟨a, -, rfl⟩ := compile_equalsAnyOf_ok_iff.mp h
    exact .terms _ values
  | logical op terms ih =>
    obtain ⟨cs, hcs, hjoin⟩ := compile_logical_ok_iff.mp h
    have heach : ∀ d ∈ cs, d.Compiled := by
      intro d hd
      obtain ⟨t, ht, htd⟩ := exists_of_mem_mapM (mapM_ok_iff.mpr hcs) hd
      exact ih t ht htd
    rcases hjoin with rfl | ⟨htwo, rfl⟩
    · exact heach c (by simp)
    · exact .group op htwo heach
  | not term ih => simp [Filter.compile] at h
  | fieldPath path => simp [Filter.compile] at h
  | collectionNotEmpty path => simp [Filter.compile] at h

theorem Clause.listToJson_eq_map (cs : List Clause) :
    Clause.listToJson cs = cs.map Clause.toJson := by
  induction cs with
  | nil => rfl
  | cons c cs ih => rw [Clause.listToJson, List.map_cons, ih]

theorem Scalar.toJson_form {v : Scalar} (h : v.HasText) : ValueForm v.toJson := by
  cases v with
  | long n => exact .integer n
  | double x =>
    have hx : x.isFinite = true := h
    rw [Scalar.toJson, if_pos hx]
    exact .real hx
  | date t => exact .text t.print
  | text s => exact .text s

theorem Clause.toJson_form {c : Clause} (h : c.Compiled) : QueryForm c.toJson := by
  induction h with
  | term field hv =>
    rw [Clause.toJson]
    exact .term field (Scalar.toJson_form hv)
  | terms field values =>
    rw [Clause.toJson]
    exact .terms field values
  | range field bound hv =>
    rw [Clause.toJson]
    refine .range field ?_ (Scalar.toJson_form hv)
    cases bound <;> simp [Bound.key]
  | fuzzy field text =>
    rw [Clause.toJson]
    exact .fuzzy field text
  | @group op cs two each ih =>
    have htwo : 2 ≤ (Clause.listToJson cs).length := by
      rw [Clause.listToJson_eq_map, List.length_map]
      exact two
    have heach : ∀ q ∈ Clause.listToJson cs, QueryForm q := by
      intro q hq
      rw [Clause.listToJson_eq_map] at hq
      obtain ⟨c, hc, rfl⟩ := List.mem_map.mp hq
      exact ih c hc
    cases op with
    | and =>
      rw [Connective.join, Clause.toJson]
      exact .must htwo heach
    | or =>
      rw [Connective.join, Clause.toJson]
      exact .should htwo heach

theorem SortClause.toJson_form (s : SortClause) : SortForm s.toJson := by
  refine .mk s.field ?_
  cases s.direction <;> simp [Direction.name]

theorem Pagination.pagesBefore_toNat (p : Pagination) :
    p.pagesBefore.toNat = max p.pageNumber.toNat 1 - 1 := by
  have hone : (1 : UInt32).toNat = 1 := rfl
  unfold Pagination.pagesBefore
  split
  next hzero => simp [hzero]
  next hzero =>
    have hne : p.pageNumber.toNat ≠ 0 := fun h => hzero (UInt32.toNat_inj.mp h)
    have hle : 1 ≤ p.pageNumber := UInt32.le_iff_toNat_le.mpr (by omega)
    rw [UInt32.toNat_sub_of_le _ _ hle]
    omega

/-- Even the end of the last page fits 64 bits. -/
theorem windowEnd_lt (size number : UInt32) :
    size.toNat * (max number.toNat 1 - 1) + size.toNat < 2 ^ 64 := by
  have hsize := size.toNat_lt
  have hnumber := number.toNat_lt
  -- a page ends where the page behind it would begin
  calc size.toNat * (max number.toNat 1 - 1) + size.toNat
      = size.toNat * (max number.toNat 1 - 1 + 1) := rfl
    _ ≤ (2 ^ 32 - 1) * (2 ^ 32 - 1) := Nat.mul_le_mul (by omega) (by omega)
    _ < 2 ^ 64 := by norm_num

theorem Pagination.window_eq (p : Pagination) : p.window =
    p.pageSize.map fun size => (size.toNat * (max p.pageNumber.toNat 1 - 1), size.toNat) := by
  unfold Pagination.window
  congr 1
  funext size
  have hend := windowEnd_lt size p.pageNumber
  rw [UInt64.toNat_mul, UInt32.toNat_toUInt64, UInt32.toNat_toUInt64, pagesBefore_toNat,
    Nat.mod_eq_of_lt (by omega)]

theorem Pagination.window_bounds {p : Pagination} {start size : Nat}
    (h : p.window = some (start, size)) : start < 2 ^ 64 ∧ size < 2 ^ 32 := by
  rw [window_eq] at h
  obtain ⟨n, -, hwindow⟩ := Option.map_eq_some_iff.mp h
  cases hwindow
  have hend := windowEnd_lt n p.pageNumber
  exact ⟨by omega, n.toNat_lt⟩

theorem compileFilter_compiled {filter : Option Filter} {query : Option Clause}
    (h : compileFilter filter = .ok query) : ∀ c, query = some c → c.Compiled := by
  intro c hc
  cases filter with
  | none =>
    cases h
    cases hc
  | some f =>
    obtain ⟨d, hd, rfl⟩ := map_ok_iff.mp h
    cases hc
    exact Filter.compiled_of_compile hd

namespace SearchRequest

/-- The members of the body, in key order. -/
def members (r : SearchRequest) : List (String × Json) :=
  Json.memberIf "from" (r.start.map Json.nat) ++ (Json.memberIf "query" (r.query.map Clause.toJson) ++
    (Json.memberIf "size" (r.size.map Json.nat) ++ Json.memberIf "sort"
      (if r.sort.isEmpty then none else some (.array (r.sort.map SortClause.toJson)))))

theorem body_eq (r : SearchRequest) : r.body = .object r.members := by
  simp only [body, members, List.append_assoc]

theorem body_member (r : SearchRequest) (key : String) :
    r.body.member? key = r.members.lookup key := by
  rw [body_eq, Json.member?]

theorem members_keys (r : SearchRequest) :
    (r.members.map Prod.fst).Sublist ["from", "query", "size", "sort"] := by
  simp only [members, List.map_append]
  exact (Json.memberIf_keys _ _).append ((Json.memberIf_keys _ _).append
    ((Json.memberIf_keys _ _).append (Json.memberIf_keys _ _)))

theorem lookup_from (r : SearchRequest) : r.members.lookup "from" = r.start.map Json.nat := by
  simp [members, Json.lookup_memberIf, Json.lookup_memberIf_end]

theorem lookup_query (r : SearchRequest) :
    r.members.lookup "query" = r.query.map Clause.toJson := by
  simp [members, Json.lookup_memberIf, Json.lookup_memberIf_end]

theorem lookup_size (r : SearchRequest) : r.members.lookup "size" = r.size.map Json.nat := by
  simp [members, Json.lookup_memberIf, Json.lookup_memberIf_end]

theorem lookup_sort (r : SearchRequest) : r.members.lookup "sort" =
    if r.sort.isEmpty then none else some (.array (r.sort.map SortClause.toJson)) := by
  simp [members, Json.lookup_memberIf, Json.lookup_memberIf_end]

end SearchRequest

theorem search_form {o : Options} {index : String} {filter : Option Filter}
    {sort : Option (List SortKey)} {page : Option Pagination} {request : SearchRequest}
    (h : o.search index filter sort page = .ok request) : SearchForm request.members := by
  obtain ⟨query, hquery, h⟩ := bind_ok_iff.mp h
  obtain ⟨clauses, -, h⟩ := bind_ok_iff.mp h
  cases h
  refine ⟨SearchRequest.members_keys _, ?_, ?_, ?_⟩
  · rw [SearchRequest.lookup_from, SearchRequest.lookup_size]
    cases hwindow : page.bind Pagination.window with
    | none => exact .inl ⟨rfl, rfl⟩
    | some window =>
      obtain ⟨p, -, hp⟩ := Option.bind_eq_some_iff.mp hwindow
      obtain ⟨hstart, hsize⟩ := Pagination.window_bounds hp
      exact .inr ⟨window.1, window.2, hstart, hsize, rfl, rfl⟩
  · intro v hv
    rw [SearchRequest.lookup_sort] at hv
    split at hv
    next => cases hv
    next hne =>
      cases hv
      refine ⟨_, by simpa using hne, rfl, ?_⟩
      intro k hk
      obtain ⟨s, -, rfl⟩ := List.mem_map.mp hk
      exact s.toJson_form
  · intro v hv
    rw [SearchRequest.lookup_query] at hv
    obtain ⟨c, hc, rfl⟩ := Option.map_eq_some_iff.mp hv
    exact Clause.toJson_form (compileFilter_compiled hquery c hc)

theorem count_form {index : String} {filter : Option Filter} {request : CountRequest}
    (h : countRequest index filter = .ok request) :
    ∃ members, request.body = .object members ∧ CountForm members := by
  obtain ⟨query, hquery, h⟩ := bind_ok_iff.mp h
  cases h
  cases query with
  | none => exact ⟨[], rfl, .inl rfl⟩
  | some c =>
    exact ⟨_, rfl, .inr ⟨_, Clause.toJson_form (compileFilter_compiled hquery c rfl), rfl⟩⟩

/-- No key stands in a body twice, so what is looked up is all that there is. -/
theorem SearchForm.nullFree {members : List (String × Json)} (h : SearchForm members) :
    NullFree (.object members) := by
  apply Json.nullFree_object
  intro m hm
  have hlookup := Json.lookup_of_mem (h.keys.nodup (by decide)) hm
  have hkey : m.1 ∈ ["from", "query", "size", "sort"] := h.keys.subset (List.mem_map_of_mem hm)
  simp only [List.mem_cons, List.not_mem_nil, or_false] at hkey
  have hpage (hk : m.1 = "from" ∨ m.1 = "size") : ∃ n : Nat, m.2 = .number (.integer n) := by
    rcases h.page with ⟨hfrom, hsize⟩ | ⟨start, size, -, -, hfrom, hsize⟩
    · rcases hk with hk | hk
      · rw [hk, hfrom] at hlookup
        cases hlookup
      · rw [hk, hsize] at hlookup
        cases hlookup
    · rcases hk with hk | hk
      · rw [hk, hfrom] at hlookup
        exact ⟨start, (Option.some.inj hlookup).symm⟩
      · rw [hk, hsize] at hlookup
        exact ⟨size, (Option.some.inj hlookup).symm⟩
  rcases hkey with hk | hk | hk | hk
  · obtain ⟨n, hn⟩ := hpage (.inl hk)
    rw [hn]
    exact Json.nullFree_integer n
  · rw [hk] at hlookup
    exact (h.query _ hlookup).nullFree
  · obtain ⟨n, hn⟩ := hpage (.inr hk)
    rw [hn]
    exact Json.nullFree_integer n
  · rw [hk] at hlookup
    obtain ⟨keys, -, hkeys, heach⟩ := h.sort _ hlookup
    rw [hkeys]
    exact Json.nullFree_array fun k hk => (heach k hk).nullFree

theorem CountForm.nullFree {members : List (String × Json)} (h : CountForm members) :
    NullFree (.object members) := by
  rcases h with rfl | ⟨q, hq, rfl⟩
  · exact Json.nullFree_object (by simp)
  · exact Json.nullFree_single hq.nullFree

/-- Whatever compiles to a search or a count has a body in the engine's language, and null is
nowhere in it. -/
theorem compiled_bodies_conform (o : Options) (index : String) (filter : Option Filter)
    (sort : Option (List SortKey)) (page : Option Pagination) :
    (∀ request, o.search index filter sort page = .ok request →
      ∃ members, request.body = .object members ∧ SearchForm members ∧ NullFree request.body) ∧
    ∀ request, countRequest index filter = .ok request →
      ∃ members, request.body = .object members ∧ CountForm members ∧ NullFree request.body := by
  constructor
  · intro request h
    have hform := search_form h
    refine ⟨request.members, request.body_eq, hform, ?_⟩
    rw [request.body_eq]
    exact hform.nullFree
  · intro request h
    obtain ⟨members, hbody, hform⟩ := count_form h
    refine ⟨members, hbody, hform, ?_⟩
    rw [hbody]
    exact hform.nullFree

/-- Cheap or on sale, and not older than a day: a group inside a group, with all kinds of values. -/
def offers : Filter :=
  .logical .and
    [.logical .or
      [.comparison .lt (.field [⟨"Price", .decimal⟩]) (.literal " 2.5e0 "),
        .equalsAnyOf [⟨"Tags", .string⟩] ["sale", "last chance"]],
      .logical .or [.comparison .ge (.field [⟨"Added", .dateTime⟩]) (.literal "2024-01-02")],
      .comparison .gt (.field [⟨"Id", .identifier⟩]) (.literal "42"),
      .matchText [⟨"Name", .string⟩] "tea"]

def offersQuery : Clause :=
  .all
    [.any [.range "price" .lt (.double (.finite false 5629499534213120 (-51))),
        .terms "tags" ["sale", "last chance"]],
      .range "added" .gte (.date ⟨1704153600, 0⟩), .range "databaseId" .gt (.long 42),
      .fuzzy "name" "tea"]

def offersRequest : SearchRequest :=
  ⟨"shop", some offersQuery, [⟨"price", .desc⟩, ⟨"name", .asc⟩], some 20, some 10⟩

theorem offers_body_conforms :
    (Options.default.search "shop" (some offers)
        (some [⟨[⟨"Price", .decimal⟩], false, false⟩, ⟨[⟨"Name", .string⟩], true, false⟩])
        (some ⟨some 10, 3⟩) = .ok offersRequest ∧
      ∃ members, offersRequest.body = .object members ∧ SearchForm members ∧
        NullFree offersRequest.body) ∧
    countRequest "shop" (some offers) = .ok ⟨"shop", some offersQuery⟩ ∧
      ∃ members, CountRequest.body ⟨"shop", some offersQuery⟩ = .object members ∧
        CountForm members ∧ NullFree (CountRequest.body ⟨"shop", some offersQuery⟩) := by
  have hprice : constraint .lt (.field [⟨"Price", .decimal⟩]) (.literal " 2.5e0 ") =
      .ok ⟨"price", .float, .lt, .double (.finite false 5629499534213120 (-51))⟩ := by
    decide +kernel
  have hadded : constraint .ge (.field [⟨"Added", .dateTime⟩]) (.literal "2024-01-02") =
      .ok ⟨"added", .dateTime, .ge, .date ⟨1704153600, 0⟩⟩ := by
    decide +kernel
  have hcompile : offers.compile = .ok offersQuery := by
    simp only [offers, Filter.compile, Filter.compileAll, hprice, hadded]
    rfl
  have hsearch : Options.default.search "shop" (some offers)
      (some [⟨[⟨"Price", .decimal⟩], false, false⟩, ⟨[⟨"Name", .string⟩], true, false⟩])
      (some ⟨some 10, 3⟩) = .ok offersRequest := by
    simp only [Options.search, compileFilter, hcompile]
    rfl
  have hcount : countRequest "shop" (some offers) = .ok ⟨"shop", some offersQuery⟩ := by
    simp only [countRequest, compileFilter, hcompile]
    rfl
  have hbodies := compiled_bodies_conform Options.default "shop" (some offers)
    (some [⟨[⟨"Price", .decimal⟩], false, false⟩, ⟨[⟨"Name", .string⟩], true, false⟩])
    (some ⟨some 10, 3⟩)
  exact ⟨⟨hsearch, hbodies.1 _ hsearch⟩, hcount, hbodies.2 _ hcount⟩

end ResourceQuery
