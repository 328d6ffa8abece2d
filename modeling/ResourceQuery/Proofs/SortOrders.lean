import ResourceQuery.Proofs.BodyForm
import ResourceQuery.Proofs.Meaning
import ResourceQuery.Proofs.Obstacles

namespace ResourceQuery

/-- The key orders by a value of the resource itself. -/
structure SortKey.Sortable (k : SortKey) : Prop where
  path : ∃ a, k.path = [a]
  plain : k.aggregated = false

/-- What is wrong with a key. Its path is looked at first. -/
inductive SortObstacle : SortKey → CompileError → Prop where
  | path {k : SortKey} {e : CompileError} (h : PathObstacle k.path e) : SortObstacle k e
  | aggregated {k : SortKey} (a : Attribute) (hpath : k.path = [a]) (h : k.aggregated = true) :
      SortObstacle k (.aggregateSort k.path)

/-- How documents of a type are ordered by each of their fields, ties included. -/
structure FieldOrders (D : Type) where
  /-- The first document does not stand behind the second. -/
  le : String → D → D → Bool
  total : ∀ field x y, le field x y = true ∨ le field y x = true
  trans : ∀ field x y z, le field x y = true → le field y z = true → le field x z = true

/-- The first comparison that tells the documents apart decides. -/
def lexicographic {α : Type} (compare? : α → Option Ordering) : List α → Option Ordering
  | [] => some .eq
  | a :: as => do return (← compare? a).then (← lexicographic compare? as)

namespace FieldOrders

variable {D : Type} (O : FieldOrders D) (x y : D)

def compare (field : String) : Ordering :=
  if O.le field x y then if O.le field y x then .eq else .lt else .gt

/-- A descending key orders the documents the other way round. A key that is not sortable has no
order. -/
def byKey? : SortKey → Option Ordering
  | ⟨[a], true, false⟩ => some (O.compare x y (normalizeName a.name))
  | ⟨[a], false, false⟩ => some (O.compare y x (normalizeName a.name))
  | _ => none

/-- The first key is the primary one. -/
def byKeys? (keys : List SortKey) : Option Ordering :=
  lexicographic (O.byKey? x y) keys

/-- An entry of `sort`: a field, and whether its order is kept or reversed. -/
def byEntry? : Json → Option Ordering
  | .object [(field, how)] => do
    let direction ← (← how.member? "order").text?
    if direction = "asc" then some (O.compare x y field)
    else if direction = "desc" then some (O.compare x y field).swap
    else none
  | _ => none

/-- The order that the body of a search asks for. Without `sort` no document stands in front of
another. -/
def byBody? (body : Json) : Option Ordering :=
  match body.member? "sort" with
  | none => some .eq
  | some (.array entries) => lexicographic (O.byEntry? x y) entries
  | some _ => none

end FieldOrders

theorem SortKey.compile_ok_iff {k : SortKey} {s : SortClause} :
    k.compile = .ok s ↔ ∃ a, k.path = [a] ∧ k.aggregated = false ∧
      s = ⟨normalizeName a.name, if k.ascending then .asc else .desc⟩ := by
  simp only [SortKey.compile, bind_ok_iff, attribute_ok_iff, @eq_comm _ s]
  refine exists_congr fun a => and_congr_right fun _ => ?_
  cases k.aggregated <;> simp

theorem SortKey.compile_error_iff {k : SortKey} {e : CompileError} :
    k.compile = .error e ↔ SortObstacle k e := by
  simp only [SortKey.compile, bind_error_iff, attribute_error_iff_obstacle, attribute_ok_iff]
  constructor
  · rintro (h | ⟨a, hpath, h⟩)
    · exact .path h
    · cases hplain : k.aggregated with
      | false => simp [hplain] at h
      | true =>
        simp only [hplain, if_true, Except.error.injEq] at h
        subst h
        exact .aggregated a hpath hplain
  · intro h
    cases h with
    | path h => exact .inl h
    | aggregated a hpath h => exact .inr ⟨a, hpath, by simp [h]⟩

theorem SortKey.compile_succeeds_iff {k : SortKey} :
    (∃ s, k.compile = .ok s) ↔ k.Sortable := by
  simp only [compile_ok_iff]
  constructor
  · rintro ⟨s, a, hpath, hplain, -⟩
    exact ⟨⟨a, hpath⟩, hplain⟩
  · rintro ⟨⟨a, hpath⟩, hplain⟩
    exact ⟨_, a, hpath, hplain, rfl⟩

theorem compileSort_append (keys more : List SortKey) :
    compileSort (keys ++ more) = (do
      let front ← compileSort keys
      let back ← compileSort more
      return front ++ back) :=
  List.mapM_append

namespace FieldOrders

variable {D : Type} (O : FieldOrders D) (x y : D)

theorem compare_swap (field : String) : (O.compare x y field).swap = O.compare y x field := by
  have htotal := O.total field x y
  unfold compare
  cases hxy : O.le field x y with
  | true => cases O.le field y x <;> rfl
  | false =>
    have hyx : O.le field y x = true := htotal.resolve_left (by simp [hxy])
    rw [hyx]
    rfl

/-- A key and the entry of its clause order documents alike. -/
theorem byEntry_of_compile {k : SortKey} {s : SortClause} (h : k.compile = .ok s) :
    ∃ o, O.byKey? x y k = some o ∧ O.byEntry? x y s.toJson = some o := by
  obtain ⟨path, ascending, aggregated⟩ := k
  obtain ⟨a, hpath, hplain, rfl⟩ := SortKey.compile_ok_iff.mp h
  cases hpath
  cases hplain
  cases ascending with
  | true => exact ⟨_, rfl, rfl⟩
  | false => exact ⟨_, congrArg some (O.compare_swap x y _).symm, rfl⟩

theorem lexicographic_alike {α β : Type} {f : α → Option Ordering} {g : β → Option Ordering}
    {as : List α} {bs : List β}
    (h : List.Forall₂ (fun a b => ∃ o, f a = some o ∧ g b = some o) as bs) :
    ∃ o, lexicographic f as = some o ∧ lexicographic g bs = some o := by
  induction h with
  | nil => exact ⟨.eq, rfl, rfl⟩
  | cons hab _ ih =>
    obtain ⟨first, ha, hb⟩ := hab
    obtain ⟨rest, has, hbs⟩ := ih
    refine ⟨first.then rest, ?_, ?_⟩
    · simp [lexicographic, ha, has]
    · simp [lexicographic, hb, hbs]

theorem byBody_eq (r : SearchRequest) :
    O.byBody? x y r.body = lexicographic (O.byEntry? x y) (r.sort.map SortClause.toJson) := by
  rw [byBody?, r.body_member, r.lookup_sort]
  cases r.sort <;> rfl

theorem byBody_of_compileSort {keys : List SortKey} {clauses : List SortClause}
    (h : compileSort keys = .ok clauses) {r : SearchRequest} (hr : r.sort = clauses) :
    ∃ o, O.byKeys? x y keys = some o ∧ O.byBody? x y r.body = some o := by
  rw [byBody_eq, hr]
  apply lexicographic_alike
  rw [List.forall₂_map_right_iff]
  exact forall₂_of_mem (mapM_ok_iff.mp h) fun k _ s hs => O.byEntry_of_compile x y hs

end FieldOrders

/-- A sort compiles if all its keys are sortable; else its error is that of the first key that is
not. However documents compare by their fields, the body of a search with the clauses of the sort
puts any two of them in the order that the keys say. And the clauses of two sorts, one behind the
other, are those of the one and then those of the other. -/
theorem sort_keeps_order (keys : List SortKey) :
    ((∃ clauses, compileSort keys = .ok clauses) ↔ ∀ k ∈ keys, k.Sortable) ∧
    (∀ e, compileSort keys = .error e ↔
      ∃ before k after, keys = before ++ k :: after ∧ (∀ j ∈ before, j.Sortable) ∧
        SortObstacle k e) ∧
    (∀ clauses, compileSort keys = .ok clauses →
      ∀ (D : Type) (O : FieldOrders D) (x y : D) (request : SearchRequest),
        request.sort = clauses →
          ∃ o, O.byKeys? x y keys = some o ∧ O.byBody? x y request.body = some o) ∧
    ∀ more, compileSort (keys ++ more) = (do
      let front ← compileSort keys
      let back ← compileSort more
      return front ++ back) := by
  refine ⟨?_, ?_, ?_, compileSort_append keys⟩
  · simp only [compileSort, mapM_succeeds_iff, SortKey.compile_succeeds_iff]
  · intro e
    simp only [compileSort, mapM_error_iff, SortKey.compile_succeeds_iff,
      SortKey.compile_error_iff]
  · intro clauses h D O x y request hr
    exact O.byBody_of_compileSort x y h hr

/-- Documents with numbers in their fields. -/
def FieldOrders.byNumber {D : Type} (value : String → D → Nat) : FieldOrders D where
  le field x y := decide (value field x ≤ value field y)
  total field x y := by
    simpa using Nat.le_total (value field x) (value field y)
  trans field x y z hxy hyz := by
    simp only [decide_eq_true_eq] at hxy hyz ⊢
    exact Nat.le_trans hxy hyz

/-- Books by the year in which they appeared, and by their number of pages. -/
def bookOrders : FieldOrders (Nat × Nat) :=
  .byNumber fun field book => if field = "year" then book.1 else book.2

/-- The latest books first, and of one year the shortest. -/
def latestFirst : List SortKey :=
  [⟨[⟨"Year", .int32⟩], false, false⟩, ⟨[⟨"Pages", .int32⟩], true, false⟩]

theorem latestFirst_keeps_order :
    compileSort latestFirst = .ok [⟨"year", .desc⟩, ⟨"pages", .asc⟩] ∧
      (bookOrders.byKeys? (1998, 120) (2003, 80) latestFirst = some .gt ∧
        bookOrders.byBody? (1998, 120) (2003, 80)
          (SearchRequest.body ⟨"books", none, [⟨"year", .desc⟩, ⟨"pages", .asc⟩], none, none⟩) =
            some .gt) ∧
      bookOrders.byKeys? (2003, 80) (2003, 120) latestFirst = some .lt ∧
        bookOrders.byBody? (2003, 80) (2003, 120)
          (SearchRequest.body ⟨"books", none, [⟨"year", .desc⟩, ⟨"pages", .asc⟩], none, none⟩) =
            some .lt := by
  have hcompile : compileSort latestFirst = .ok [⟨"year", .desc⟩, ⟨"pages", .asc⟩] := by
    rfl
  have horder (x y : Nat × Nat) := (sort_keeps_order latestFirst).2.2.1 _ hcompile _ bookOrders x y
    ⟨"books", none, [⟨"year", .desc⟩, ⟨"pages", .asc⟩], none, none⟩ rfl
  have hyears : bookOrders.byKeys? (1998, 120) (2003, 80) latestFirst = some .gt := by
    decide
  have hpages : bookOrders.byKeys? (2003, 80) (2003, 120) latestFirst = some .lt := by
    decide
  refine ⟨hcompile, ⟨hyears, ?_⟩, hpages, ?_⟩
  · obtain ⟨o, hkeys, hbody⟩ := horder (1998, 120) (2003, 80)
    rw [hbody, ← hkeys, hyears]
  · obtain ⟨o, hkeys, hbody⟩ := horder (2003, 80) (2003, 120)
    rw [hbody, ← hkeys, hpages]

end ResourceQuery
