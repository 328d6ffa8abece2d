import ResourceQuery.Engine.Request
import ResourceQuery.Proofs.BodyForm
import ResourceQuery.Proofs.SearchAndCount
import ResourceQuery.Proofs.TimeParts
import ResourceQuery.Proofs.JsonLines

namespace ResourceQuery

open Json (RealFree)

/-- Every value but a double. -/
def Scalar.Plain : Scalar → Prop
  | long _ => True
  | double _ => False
  | date _ => True
  | text _ => True

/-- As literals denote them: a date has no leap second but at the end of a minute. -/
def Scalar.Proper : Scalar → Prop
  | long _ => True
  | double _ => False
  | date t => t.Proper
  | text _ => True

/-- Each value of the query has the property. -/
inductive Clause.Each (P : Scalar → Prop) : Clause → Prop where
  | term (field : String) {v : Scalar} (hv : P v) : Each P (.term field v)
  | terms (field : String) (values : List String) : Each P (.terms field values)
  | range (field : String) (bound : Bound) {v : Scalar} (hv : P v) : Each P (.range field bound v)
  | fuzzy (field text : String) : Each P (.fuzzy field text)
  | all {cs : List Clause} (each : ∀ c ∈ cs, Each P c) : Each P (.all cs)
  | any {cs : List Clause} (each : ∀ c ∈ cs, Each P c) : Each P (.any cs)

/-- A date and its text are alike; any other value is like itself only. -/
inductive Scalar.Alike : Scalar → Scalar → Prop where
  | same (v : Scalar) : Alike v v
  | dateText (t : Time.Instant) : Alike (.date t) (.text t.print)
  | textDate (t : Time.Instant) : Alike (.text t.print) (.date t)

/-- Alike, or dates that no text tells apart. -/
inductive Scalar.Meets : Scalar → Scalar → Prop where
  | alike {v w : Scalar} (h : v.Alike w) : Meets v w
  | dates {t u : Time.Instant} (h : t.Meets u) : Meets (.date t) (.date u)

/-- The same tree, with related values at each leaf. -/
inductive Clause.Matches (R : Scalar → Scalar → Prop) : Clause → Clause → Prop where
  | term (field : String) {v w : Scalar} (h : R v w) : Matches R (.term field v) (.term field w)
  | terms (field : String) (values : List String) :
      Matches R (.terms field values) (.terms field values)
  | range (field : String) (bound : Bound) {v w : Scalar} (h : R v w) :
      Matches R (.range field bound v) (.range field bound w)
  | fuzzy (field text : String) : Matches R (.fuzzy field text) (.fuzzy field text)
  | all {cs ds : List Clause} (each : List.Forall₂ (Matches R) cs ds) : Matches R (.all cs) (.all ds)
  | any {cs ds : List Clause} (each : List.Forall₂ (Matches R) cs ds) : Matches R (.any cs) (.any ds)

structure SearchRequest.Matches (R : Scalar → Scalar → Prop) (r s : SearchRequest) : Prop where
  sort : r.sort = s.sort
  start : r.start = s.start
  size : r.size = s.size
  query : Option.Rel (Clause.Matches R) r.query s.query

theorem Scalar.Proper.plain {v : Scalar} (h : v.Proper) : v.Plain := by
  cases v with
  | double x => exact h.elim
  | _ => trivial

theorem Scalar.meets_iff_of_proper {v w : Scalar} (hv : v.Proper) (hw : w.Proper) :
    v.Meets w ↔ v.Alike w := by
  constructor
  · intro h
    cases h with
    | alike h => exact h
    | dates h =>
      cases h.eq hv hw
      exact .same _
  · exact .alike

theorem Clause.Each.imp {P Q : Scalar → Prop} (hPQ : ∀ v, P v → Q v) {c : Clause} (h : c.Each P) :
    c.Each Q := by
  induction h with
  | term field hv => exact .term field (hPQ _ hv)
  | terms field values => exact .terms field values
  | range field bound hv => exact .range field bound (hPQ _ hv)
  | fuzzy field text => exact .fuzzy field text
  | all each ih => exact .all ih
  | any each ih => exact .any ih

theorem Clause.Each.plain {c : Clause} (h : c.Each Scalar.Proper) : c.Each Scalar.Plain :=
  h.imp fun _ => Scalar.Proper.plain

theorem Clause.forall₂_imp {R S : Clause → Clause → Prop} {cs ds : List Clause}
    (h : List.Forall₂ R cs ds) (himp : ∀ c ∈ cs, ∀ d ∈ ds, R c d → S c d) :
    List.Forall₂ S cs ds := by
  rw [List.forall₂_iff_zip] at h ⊢
  obtain ⟨hlength, hpairs⟩ := h
  refine ⟨hlength, ?_⟩
  intro c d hcd
  obtain ⟨hc, hd⟩ := List.of_mem_zip hcd
  exact himp c hc d hd (hpairs hcd)

/-- What relates the values of two queries may be replaced by what it implies of such values. -/
theorem Clause.Matches.imp {P : Scalar → Prop} {R S : Scalar → Scalar → Prop}
    (himp : ∀ v w, P v → P w → R v w → S v w) {c d : Clause} (hc : c.Each P) (hd : d.Each P)
    (h : c.Matches R d) : c.Matches S d := by
  induction hc generalizing d with
  | term field hv =>
    cases h with
    | term _ h =>
      cases hd with
      | term _ hw => exact .term field (himp _ _ hv hw h)
  | terms field values =>
    cases h with
    | terms => exact .terms field values
  | range field bound hv =>
    cases h with
    | range _ _ h =>
      cases hd with
      | range _ _ hw => exact .range field bound (himp _ _ hv hw h)
  | fuzzy field text =>
    cases h with
    | fuzzy => exact .fuzzy field text
  | all each ih =>
    cases h with
    | all h =>
      cases hd with
      | all others => exact .all (forall₂_imp h fun c hc d hd => ih c hc (others d hd))
  | any each ih =>
    cases h with
    | any h =>
      cases hd with
      | any others => exact .any (forall₂_imp h fun c hc d hd => ih c hc (others d hd))

theorem Clause.queries_match_iff {a b : Option Clause} (ha : ∀ c ∈ a, c.Each Scalar.Proper)
    (hb : ∀ c ∈ b, c.Each Scalar.Proper) :
    Option.Rel (Clause.Matches Scalar.Meets) a b ↔ Option.Rel (Clause.Matches Scalar.Alike) a b := by
  cases a with
  | none => cases b <;> simp
  | some c =>
    cases b with
    | none => simp
    | some d =>
      have hc := ha c rfl
      have hd := hb d rfl
      simp only [Option.rel_some_some]
      constructor
      · exact Matches.imp (fun v w hv hw => (Scalar.meets_iff_of_proper hv hw).mp) hc hd
      · exact Matches.imp (fun v w hv hw => (Scalar.meets_iff_of_proper hv hw).mpr) hc hd

namespace Json

theorem realFree_single {key : String} {v : Json} (h : RealFree v) : RealFree (.single key v) := by
  refine .object ?_
  intro m hm
  cases List.mem_singleton.mp hm
  exact h

theorem realFree_map {α : Type} {f : α → Json} {xs : List α} (h : ∀ x ∈ xs, RealFree (f x)) :
    RealFree (.array (xs.map f)) := by
  refine .array ?_
  intro v hv
  obtain ⟨x, hx, rfl⟩ := List.mem_map.mp hv
  exact h x hx

@[simp]
theorem single_inj {k l : String} {v w : Json} : single k v = single l w ↔ k = l ∧ v = w := by
  simp [single]

theorem strings_inj {ss ts : List String} (h : strings ss = strings ts) : ss = ts := by
  refine List.map_injective_iff.mpr ?_ (Json.array.inj h)
  intro s t hst
  exact Json.string.inj hst

end Json

theorem Scalar.realFree_toJson {v : Scalar} (h : v.Plain) : RealFree v.toJson := by
  cases v with
  | long n => exact .integer n
  | double x => exact h.elim
  | date t => exact .string t.print
  | text s => exact .string s

theorem Clause.realFree_toJson {c : Clause} (h : c.Each Scalar.Plain) : RealFree c.toJson := by
  have hgroup {cs : List Clause} (ih : ∀ c ∈ cs, RealFree c.toJson) :
      RealFree (.array (Clause.listToJson cs)) := by
    rw [Clause.listToJson_eq_map]
    exact Json.realFree_map ih
  induction h with
  | term field hv =>
    rw [Clause.toJson]
    exact Json.realFree_single (Json.realFree_single (Json.realFree_single
      (Scalar.realFree_toJson hv)))
  | terms field values =>
    rw [Clause.toJson]
    exact Json.realFree_single (Json.realFree_single (Json.realFree_map fun s _ => .string s))
  | range field bound hv =>
    rw [Clause.toJson]
    exact Json.realFree_single (Json.realFree_single (Json.realFree_single
      (Scalar.realFree_toJson hv)))
  | fuzzy field text =>
    rw [Clause.toJson]
    refine Json.realFree_single (Json.realFree_single (.object ?_))
    simp [RealFree.string]
  | all each ih =>
    rw [Clause.toJson]
    exact Json.realFree_single (Json.realFree_single (hgroup ih))
  | any each ih =>
    rw [Clause.toJson]
    refine Json.realFree_single (.object ?_)
    simp [RealFree.integer, Json.nat, hgroup ih]

theorem Scalar.toJson_eq_iff {v w : Scalar} (hv : v.Plain) (hw : w.Plain) :
    v.toJson = w.toJson ↔ v.Meets w := by
  constructor
  · intro h
    cases v with
    | double x => exact hv.elim
    | long m =>
      cases w with
      | double x => exact hw.elim
      | long n =>
        cases h
        exact .alike (.same _)
      | date u => cases h
      | text s => cases h
    | date t =>
      cases w with
      | double x => exact hw.elim
      | long n => cases h
      | date u =>
        exact .dates (Time.Instant.meets_of_print (Json.string.inj h))
      | text s =>
        have hs : t.print = s := Json.string.inj h
        subst hs
        exact .alike (.dateText t)
    | text s =>
      cases w with
      | double x => exact hw.elim
      | long n => cases h
      | date u =>
        have hs : s = u.print := Json.string.inj h
        subst hs
        exact .alike (.textDate u)
      | text t =>
        cases h
        exact .alike (.same _)
  · intro h
    cases h with
    | alike h => cases h <;> rfl
    | dates h => exact congrArg Json.string h.print_eq

theorem Bound.key_inj {a b : Bound} (h : a.key = b.key) : a = b := by
  cases a <;> cases b <;> simp [key] at h ⊢

theorem Clause.listToJson_eq_iff {cs ds : List Clause}
    (h : ∀ c ∈ cs, ∀ d ∈ ds, (c.toJson = d.toJson ↔ c.Matches Scalar.Meets d)) :
    Clause.listToJson cs = Clause.listToJson ds ↔
      List.Forall₂ (Clause.Matches Scalar.Meets) cs ds := by
  induction cs generalizing ds with
  | nil => cases ds <;> simp [Clause.listToJson]
  | cons c cs ih =>
    cases ds with
    | nil => simp [Clause.listToJson]
    | cons d ds =>
      have hhead := h c (by simp) d (by simp)
      have htail := ih fun c hc d hd => h c (List.mem_cons_of_mem _ hc) d (List.mem_cons_of_mem _ hd)
      rw [Clause.listToJson, Clause.listToJson, List.cons.injEq, List.forall₂_cons, hhead, htail]

/-- The operator over a field, and the name of a group, tell the kind of a query. -/
theorem Clause.toJson_eq_iff {c d : Clause} (hc : c.Each Scalar.Plain)
    (hd : d.Each Scalar.Plain) :
    c.toJson = d.toJson ↔ c.Matches Scalar.Meets d := by
  induction hc generalizing d with
  | term field hv =>
    cases hd with
    | term other hw =>
      simp only [Clause.toJson, Json.single_inj, true_and, Scalar.toJson_eq_iff hv hw]
      constructor
      · intro h
        obtain ⟨rfl, h⟩ := h
        exact .term field h
      · intro h
        cases h with
        | term field h => exact ⟨rfl, h⟩
    | _ => exact ⟨fun h => by simp [Clause.toJson] at h, fun h => by cases h⟩
  | terms field values =>
    cases hd with
    | terms other others =>
      simp only [Clause.toJson, Json.single_inj, true_and]
      constructor
      · intro h
        obtain ⟨rfl, h⟩ := h
        cases Json.strings_inj h
        exact .terms field values
      · intro h
        cases h
        exact ⟨rfl, rfl⟩
    | _ => exact ⟨fun h => by simp [Clause.toJson] at h, fun h => by cases h⟩
  | range field bound hv =>
    cases hd with
    | range other limit hw =>
      simp only [Clause.toJson, Json.single_inj, true_and, Scalar.toJson_eq_iff hv hw]
      constructor
      · intro h
        obtain ⟨rfl, hkey, h⟩ := h
        cases Bound.key_inj hkey
        exact .range field bound h
      · intro h
        cases h with
        | range field bound h => exact ⟨rfl, rfl, h⟩
    | _ => exact ⟨fun h => by simp [Clause.toJson] at h, fun h => by cases h⟩
  | fuzzy field text =>
    cases hd with
    | fuzzy other words =>
      constructor
      · intro h
        have hsame : field = other ∧ text = words := by simpa [Clause.toJson] using h
        obtain ⟨rfl, rfl⟩ := hsame
        exact .fuzzy field text
      · intro h
        cases h
        rfl
    | _ => exact ⟨fun h => by simp [Clause.toJson] at h, fun h => by cases h⟩
  | all each ih =>
    cases hd with
    | @all ds others =>
      have heach := Clause.listToJson_eq_iff fun c hc d hd => ih c hc (others d hd)
      simp only [Clause.toJson, Json.single_inj, true_and, Json.array.injEq, heach]
      constructor
      · intro h
        exact .all h
      · intro h
        cases h with
        | all h => exact h
    | any others => exact ⟨fun h => by simp [Clause.toJson, Json.single] at h, fun h => by cases h⟩
    | _ => exact ⟨fun h => by simp [Clause.toJson] at h, fun h => by cases h⟩
  | @any cs each ih =>
    cases hd with
    | @any ds others =>
      have heach := Clause.listToJson_eq_iff fun c hc d hd => ih c hc (others d hd)
      constructor
      · intro h
        have hlike : List.Forall₂ (Clause.Matches Scalar.Meets) cs ds := by
          simpa [Clause.toJson, heach] using h
        exact .any hlike
      · intro h
        cases h with
        | any h => simp [Clause.toJson, heach, h]
    | all others => exact ⟨fun h => by simp [Clause.toJson, Json.single] at h, fun h => by cases h⟩
    | _ => exact ⟨fun h => by simp [Clause.toJson] at h, fun h => by cases h⟩

theorem SortClause.toJson_inj {s t : SortClause} (h : s.toJson = t.toJson) : s = t := by
  obtain ⟨field, direction⟩ := s
  obtain ⟨other, order⟩ := t
  have hsame : field = other ∧ direction.name = order.name := by simpa [SortClause.toJson] using h
  obtain ⟨rfl, hname⟩ := hsame
  cases direction <;> cases order <;> simp [Direction.name] at hname ⊢

theorem Clause.queryJson_eq_iff {a b : Option Clause} (ha : ∀ c ∈ a, c.Each Scalar.Plain)
    (hb : ∀ c ∈ b, c.Each Scalar.Plain) :
    a.map Clause.toJson = b.map Clause.toJson ↔ Option.Rel (Clause.Matches Scalar.Meets) a b := by
  cases a with
  | none => cases b <;> simp
  | some c =>
    cases b with
    | none => simp
    | some d => simp [Clause.toJson_eq_iff (ha c rfl) (hb d rfl)]

theorem SortClause.realFree_toJson (s : SortClause) : RealFree s.toJson :=
  Json.realFree_single (Json.realFree_single (.string s.direction.name))

namespace Json

theorem nat_injective : Function.Injective Json.nat := by
  intro m n h
  exact Int.ofNat_inj.mp (by simpa [Json.nat] using h)

end Json

namespace SearchRequest

variable {r s : SearchRequest}

theorem realFree_body (h : ∀ c ∈ r.query, c.Each Scalar.Plain) : RealFree r.body := by
  refine .object ?_
  simp only [List.forall_mem_append]
  refine ⟨⟨⟨?_, ?_⟩, ?_⟩, ?_⟩
  · exact Json.forall_memberIf fun n _ => .integer n
  · exact Json.forall_memberIf fun c hc => Clause.realFree_toJson (h c hc)
  · exact Json.forall_memberIf fun n _ => .integer n
  · by_cases hempty : r.sort.isEmpty = true
    · simp [hempty, Json.memberIf]
    · have hkeys : RealFree (.array (r.sort.map SortClause.toJson)) :=
        Json.realFree_map fun t _ => t.realFree_toJson
      simp [hempty, Json.memberIf, hkeys]

/-- Without sort keys there is no member, and a member has the keys in their order. -/
theorem sort_eq_of_lookup (h : r.members.lookup "sort" = s.members.lookup "sort") :
    r.sort = s.sort := by
  rw [lookup_sort, lookup_sort] at h
  have hkeys (h : r.sort.map SortClause.toJson = s.sort.map SortClause.toJson) : r.sort = s.sort :=
    List.map_injective_iff.mpr (fun _ _ => SortClause.toJson_inj) h
  apply hkeys
  by_cases hr : r.sort = [] <;> by_cases hs : s.sort = [] <;> simp_all

theorem body_eq_iff (hr : ∀ c ∈ r.query, c.Each Scalar.Plain)
    (hs : ∀ c ∈ s.query, c.Each Scalar.Plain) :
    r.body = s.body ↔ r.Matches Scalar.Meets s := by
  constructor
  · intro h
    have hmembers : r.members = s.members := by simpa [body_eq] using h
    have hstart := congrArg (List.lookup "from") hmembers
    have hsize := congrArg (List.lookup "size") hmembers
    have hquery := congrArg (List.lookup "query") hmembers
    rw [lookup_from, lookup_from] at hstart
    rw [lookup_size, lookup_size] at hsize
    rw [lookup_query, lookup_query, Clause.queryJson_eq_iff hr hs] at hquery
    exact ⟨sort_eq_of_lookup (by rw [hmembers]), Option.map_injective Json.nat_injective hstart,
      Option.map_injective Json.nat_injective hsize, hquery⟩
  · intro h
    rw [body, body, h.sort, h.start, h.size, (Clause.queryJson_eq_iff hr hs).mpr h.query]

theorem encode_eq_iff (hr : ∀ c ∈ r.query, c.Each Scalar.Plain)
    (hs : ∀ c ∈ s.query, c.Each Scalar.Plain) :
    r.encode = s.encode ↔ r.Matches Scalar.Meets s := by
  rw [← body_eq_iff hr hs]
  exact ⟨Json.pretty_inj (realFree_body hr) (realFree_body hs), congrArg Json.pretty⟩

theorem encode_eq_iff_of_proper (hr : ∀ c ∈ r.query, c.Each Scalar.Proper)
    (hs : ∀ c ∈ s.query, c.Each Scalar.Proper) :
    r.encode = s.encode ↔ r.Matches Scalar.Alike s := by
  rw [encode_eq_iff (fun c hc => (hr c hc).plain) fun c hc => (hs c hc).plain]
  constructor
  · intro h
    exact ⟨h.sort, h.start, h.size, (Clause.queries_match_iff hr hs).mp h.query⟩
  · intro h
    exact ⟨h.sort, h.start, h.size, (Clause.queries_match_iff hr hs).mpr h.query⟩

end SearchRequest

namespace CountRequest

variable {r s : CountRequest}

theorem realFree_body (h : ∀ c ∈ r.query, c.Each Scalar.Plain) : RealFree r.body :=
  .object (Json.forall_memberIf fun c hc => Clause.realFree_toJson (h c hc))

theorem body_eq_iff (hr : ∀ c ∈ r.query, c.Each Scalar.Plain)
    (hs : ∀ c ∈ s.query, c.Each Scalar.Plain) :
    r.body = s.body ↔ Option.Rel (Clause.Matches Scalar.Meets) r.query s.query := by
  rw [← Clause.queryJson_eq_iff hr hs]
  constructor
  · intro h
    have hquery := congrArg (List.lookup "query") (Json.object.inj h)
    simpa [Json.lookup_memberIf_end] using hquery
  · intro h
    rw [body, body, h]

theorem encode_eq_iff (hr : ∀ c ∈ r.query, c.Each Scalar.Plain)
    (hs : ∀ c ∈ s.query, c.Each Scalar.Plain) :
    r.encode = s.encode ↔ Option.Rel (Clause.Matches Scalar.Meets) r.query s.query := by
  rw [← body_eq_iff hr hs]
  exact ⟨Json.pretty_inj (realFree_body hr) (realFree_body hs), congrArg Json.pretty⟩

theorem encode_eq_iff_of_proper (hr : ∀ c ∈ r.query, c.Each Scalar.Proper)
    (hs : ∀ c ∈ s.query, c.Each Scalar.Proper) :
    r.encode = s.encode ↔ Option.Rel (Clause.Matches Scalar.Alike) r.query s.query := by
  rw [encode_eq_iff (fun c hc => (hr c hc).plain) fun c hc => (hs c hc).plain]
  exact Clause.queries_match_iff hr hs

end CountRequest

/-- A literal denotes a proper value, but for those of binary numbers. -/
theorem ScalarClass.proper_of_parse {c : ScalarClass} {literal : String} {v : Scalar}
    (h : c.parse? literal = some v) (hv : v.Plain) : v.Proper := by
  cases c with
  | float =>
    obtain ⟨x, -, rfl⟩ := Option.map_eq_some_iff.mp h
    exact hv.elim
  | integer =>
    obtain ⟨n, -, rfl⟩ := Option.map_eq_some_iff.mp h
    trivial
  | dateTime =>
    obtain ⟨t, ht, rfl⟩ := Option.map_eq_some_iff.mp h
    exact Time.parse_proper ht
  | text =>
    cases h
    trivial

theorem Filter.proper_of_compile {f : Filter} {c : Clause} (h : f.compile = .ok c)
    (hc : c.Each Scalar.Plain) : c.Each Scalar.Proper := by
  induction f generalizing c with
  | comparison op left right =>
    obtain ⟨a, literal, expected, value, -, -, -, hv, -, rfl⟩ := compile_comparison_ok_iff.mp h
    have hproper := ScalarClass.proper_of_parse hv
    cases op with
    | eq =>
      cases hc with
      | term _ hplain => exact .term _ (hproper hplain)
    | _ =>
      cases hc with
      | range _ _ hplain => exact .range _ _ (hproper hplain)
  | matchText field text =>
    obtain ⟨a, -, rfl⟩ := compile_matchText_ok_iff.mp h
    exact .fuzzy _ text
  | equalsAnyOf field values =>
    obtain ⟨a, -, rfl⟩ := compile_equalsAnyOf_ok_iff.mp h
    exact .terms _ values
  | logical op terms ih =>
    obtain ⟨cs, hcs, hjoin⟩ := compile_logical_ok_iff.mp h
    have heach : ∀ d ∈ cs, d.Each Scalar.Plain → d.Each Scalar.Proper := by
      intro d hd
      obtain ⟨t, ht, htd⟩ := exists_of_mem_mapM (mapM_ok_iff.mpr hcs) hd
      exact ih t ht htd
    rcases hjoin with rfl | ⟨-, rfl⟩
    · exact heach c (by simp) hc
    · cases op with
      | and =>
        cases hc with
        | all each => exact .all fun d hd => heach d hd (each d hd)
      | or =>
        cases hc with
        | any each => exact .any fun d hd => heach d hd (each d hd)
  | not term ih => simp [Filter.compile] at h
  | fieldPath path => simp [Filter.compile] at h
  | collectionNotEmpty path => simp [Filter.compile] at h

theorem compileFilter_proper {filter : Option Filter} {query : Option Clause}
    (h : compileFilter filter = .ok query) (hplain : ∀ c ∈ query, c.Each Scalar.Plain) :
    ∀ c ∈ query, c.Each Scalar.Proper := by
  intro c hc
  cases filter with
  | none =>
    cases h
    cases hc
  | some f =>
    obtain ⟨d, hd, rfl⟩ := map_ok_iff.mp h
    cases hc
    exact Filter.proper_of_compile hd (hplain _ rfl)

theorem SearchRequest.proper_of_translate {o : Options} {index : String} {l : Layer}
    {r : SearchRequest} (h : o.translate index l = .ok r) (hr : ∀ c ∈ r.query, c.Each Scalar.Plain) :
    ∀ c ∈ r.query, c.Each Scalar.Proper := by
  obtain ⟨query, clauses, hquery, -, rfl⟩ := search_ok_iff.mp h
  exact compileFilter_proper hquery hr

/-- Requests that layers compile to have one text exactly if they are the same but for dates in place
of their own texts. -/
theorem compiled_texts_tell_requests {o o' : Options} {index index' : String} {l l' : Layer}
    {r s : SearchRequest} (hr : o.translate index l = .ok r) (hs : o'.translate index' l' = .ok s)
    (hrplain : ∀ c ∈ r.query, c.Each Scalar.Plain) (hsplain : ∀ c ∈ s.query, c.Each Scalar.Plain) :
    r.encode = s.encode ↔ r.Matches Scalar.Alike s :=
  SearchRequest.encode_eq_iff_of_proper (SearchRequest.proper_of_translate hr hrplain)
    (SearchRequest.proper_of_translate hs hsplain)

/-- Requests have one text exactly if they match up to dates in place of their texts and dates that
meet; neither the name of a field nor a literal makes two of them one. Without leap seconds inside a
minute no two dates meet. -/
theorem request_texts_tell_requests :
    (∀ r s : SearchRequest, (∀ c ∈ r.query, c.Each Scalar.Plain) →
      (∀ c ∈ s.query, c.Each Scalar.Plain) →
        (r.encode = s.encode ↔ r.Matches Scalar.Meets s)) ∧
    (∀ r s : CountRequest, (∀ c ∈ r.query, c.Each Scalar.Plain) →
      (∀ c ∈ s.query, c.Each Scalar.Plain) →
        (r.encode = s.encode ↔ Option.Rel (Clause.Matches Scalar.Meets) r.query s.query)) ∧
    (∀ r s : SearchRequest, (∀ c ∈ r.query, c.Each Scalar.Proper) →
      (∀ c ∈ s.query, c.Each Scalar.Proper) →
        (r.encode = s.encode ↔ r.Matches Scalar.Alike s)) ∧
    (∀ r s : CountRequest, (∀ c ∈ r.query, c.Each Scalar.Proper) →
      (∀ c ∈ s.query, c.Each Scalar.Proper) →
        (r.encode = s.encode ↔ Option.Rel (Clause.Matches Scalar.Alike) r.query s.query)) :=
  ⟨fun _ _ hr hs => SearchRequest.encode_eq_iff hr hs,
    fun _ _ hr hs => CountRequest.encode_eq_iff hr hs,
    fun _ _ hr hs => SearchRequest.encode_eq_iff_of_proper hr hs,
    fun _ _ hr hs => CountRequest.encode_eq_iff_of_proper hr hs⟩

/-- Half a second into the leap second of 2016. -/
def leapSecond : Time.Instant :=
  ⟨1483228799, 1500000000⟩

/-- A leap second behind noon, where no minute ends. -/
def strayLeap : Time.Instant :=
  ⟨1483185600, 1500000000⟩

/-- The point that the stray leap second is taken for. -/
def afterNoon : Time.Instant :=
  ⟨1483185601, 500000000⟩

def seenSince (v : Scalar) : Clause :=
  .all [.any [], .all [.range "seen\": \x7b" .gte v], .terms "" []]

def visitsSince (v : Scalar) : SearchRequest :=
  ⟨"Visit", some (seenSince v), [⟨"_id", .desc⟩, ⟨"", .asc⟩], some 0, none⟩

theorem seenSince_each {P : Scalar → Prop} {v : Scalar} (hv : P v) :
    ∀ c ∈ some (seenSince v), c.Each P := by
  intro c hc
  cases hc
  have hrange : Clause.Each P (.all [.range "seen\": \x7b" .gte v]) :=
    .all (by simpa using .range _ _ hv)
  exact .all (by simp [hrange, Clause.Each.any, Clause.Each.terms])

theorem seenSince_matches {R : Scalar → Scalar → Prop} {v w : Scalar} :
    Option.Rel (Clause.Matches R) (some (seenSince v)) (some (seenSince w)) ↔ R v w := by
  constructor
  · intro h
    match h with
    | .some (.all (.cons _ (.cons (.all (.cons (.range _ _ h) _)) _))) => exact h
  · intro h
    exact .some (.all (.cons (.any .nil) (.cons (.all (.cons (.range _ _ h) .nil))
      (.cons (.terms _ _) .nil))))

theorem strayLeap_meets : strayLeap.Meets afterNoon :=
  ⟨by decide, by decide, by decide⟩

/-- A leap second inside a minute passes for one at its end: here two requests have one text, and they
are not the same up to dates in place of their texts. -/
theorem strayLeap_unnoticed :
    (∀ c ∈ (visitsSince (.date strayLeap)).query, c.Each Scalar.Plain) ∧
    (∀ c ∈ (visitsSince (.date afterNoon)).query, c.Each Scalar.Plain) ∧
    (visitsSince (.date strayLeap)).encode = (visitsSince (.date afterNoon)).encode ∧
    ¬ (visitsSince (.date strayLeap)).Matches Scalar.Alike (visitsSince (.date afterNoon)) := by
  have hstray := seenSince_each (P := Scalar.Plain) (v := .date strayLeap) trivial
  have hafter := seenSince_each (P := Scalar.Plain) (v := .date afterNoon) trivial
  refine ⟨hstray, hafter, ?_, ?_⟩
  · exact (SearchRequest.encode_eq_iff hstray hafter).mpr
      ⟨rfl, rfl, rfl, seenSince_matches.mpr (.dates strayLeap_meets)⟩
  · intro h
    cases seenSince_matches.mp h.query

/-- The leap second meets its own text, and not the second behind it; a stray one meets the second
behind it. -/
theorem leapSecond_told :
    (visitsSince (.date leapSecond)).encode =
      (visitsSince (.text "2016-12-31T23:59:60.500Z")).encode ∧
    (visitsSince (.date leapSecond)).encode ≠
      (visitsSince (.date ⟨1483228800, 500000000⟩)).encode ∧
    CountRequest.encode ⟨"Visit", some (seenSince (.date leapSecond))⟩ =
      CountRequest.encode ⟨"Visit", some (seenSince (.text "2016-12-31T23:59:60.500Z"))⟩ ∧
    (visitsSince (.date strayLeap)).encode = (visitsSince (.date afterNoon)).encode ∧
    CountRequest.encode ⟨"Visit", some (seenSince (.date strayLeap))⟩ =
      CountRequest.encode ⟨"Visit", some (seenSince (.date afterNoon))⟩ := by
  have hproper : Scalar.Proper (.date leapSecond) := ⟨by decide, by decide⟩
  have hnext : Scalar.Proper (.date ⟨1483228800, 500000000⟩) := ⟨by decide, by decide⟩
  have hprint : leapSecond.print = "2016-12-31T23:59:60.500Z" := by decide
  have hdate := seenSince_each hproper
  have htext := seenSince_each (P := Scalar.Proper) (v := .text "2016-12-31T23:59:60.500Z") trivial
  have hstray := seenSince_each (P := Scalar.Plain) (v := .date strayLeap) trivial
  have hafter := seenSince_each (P := Scalar.Plain) (v := .date afterNoon) trivial
  have halike : Scalar.Alike (.date leapSecond) (.text "2016-12-31T23:59:60.500Z") := by
    rw [← hprint]
    exact .dateText leapSecond
  have hquery := seenSince_matches.mpr halike
  have hmeets := seenSince_matches.mpr (Scalar.Meets.dates strayLeap_meets)
  obtain ⟨searches, counts, properSearches, properCounts⟩ := request_texts_tell_requests
  refine ⟨?_, ?_, ?_, ?_, ?_⟩
  · exact (properSearches _ _ hdate htext).mpr ⟨rfl, rfl, rfl, hquery⟩
  · intro h
    have hlike := (properSearches _ _ hdate (seenSince_each hnext)).mp h
    cases seenSince_matches.mp hlike.query
  · exact (properCounts _ _ hdate htext).mpr hquery
  · exact (searches _ _ hstray hafter).mpr ⟨rfl, rfl, rfl, hmeets⟩
  · exact (counts _ _ hstray hafter).mpr hmeets

end ResourceQuery
