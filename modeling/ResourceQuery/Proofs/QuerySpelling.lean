import ResourceQuery.Proofs.RecordSpelling
import ResourceQuery.Query.Decoding
import ResourceQuery.Query.Encoding

namespace ResourceQuery

open Json (Draft Entry Present RecordSpelling SyntaxError)

namespace Json

def TextSpelling (s : String) (d : Draft) : Prop :=
  d = .string (.ok s)

def FlagSpelling (b : Bool) (d : Draft) : Prop :=
  d = .bool b

def WordSpelling (n : UInt32) (d : Draft) : Prop :=
  d = .number (.ok (.integer n.toNat))

/-- The name of a choice without fields, or an object of the name and null. -/
def NameSpelling (name : String) (d : Draft) : Prop :=
  d = .string (.ok name) ∨ d = .object [(.ok name, .null)] none

def ListSpelling {α : Type} (Spells : α → Draft → Prop) (xs : List α) (d : Draft) : Prop :=
  ∃ ds, d = .array ds none ∧ List.Forall₂ Spells xs ds

end Json

open Json (TextSpelling FlagSpelling WordSpelling NameSpelling ListSpelling)

def Attribute.entries (a : Attribute) : List Entry :=
  [.required "name" (TextSpelling a.name), .required "type" (NameSpelling a.type.name)]

def Attribute.Spelled (a : Attribute) : Draft → Prop :=
  RecordSpelling a.entries

def FieldPath.Spelled (path : FieldPath) : Draft → Prop :=
  ListSpelling Attribute.Spelled path

namespace Operand

def variant : Operand → String
  | field _ => "Field"
  | literal _ => "Literal"
  | null => "Null"
  | count _ => "Count"

def entries : Operand → List Entry
  | field path => [.required "path" path.Spelled]
  | literal value => [.required "value" (TextSpelling value)]
  | null => []
  | count path => [.required "path" path.Spelled]

def Spelled (o : Operand) : Draft → Prop :=
  RecordSpelling (.tag o.variant :: o.entries)

end Operand

namespace Filter

def variant : Filter → String
  | comparison .. => "Comparison"
  | matchText .. => "MatchText"
  | equalsAnyOf .. => "EqualsAnyOf"
  | logical .. => "Logical"
  | not _ => "Not"
  | fieldPath _ => "FieldPath"
  | collectionNotEmpty _ => "CollectionNotEmpty"

mutual

def entries : Filter → List Entry
  | comparison op left right =>
    [.required "op" (NameSpelling op.name), .required "left" left.Spelled,
      .required "right" right.Spelled]
  | matchText field text =>
    [.required "field" field.Spelled, .required "text" (TextSpelling text)]
  | equalsAnyOf field values =>
    [.required "field" field.Spelled, .required "values" (ListSpelling TextSpelling values)]
  | logical op terms =>
    [.required "op" (NameSpelling op.name),
      .required "terms" fun d => ∃ ds, d = .array ds none ∧ EachSpelled terms ds]
  | not term => [.required "term" (RecordSpelling (.tag term.variant :: term.entries))]
  | fieldPath path => [.required "path" path.Spelled]
  | collectionNotEmpty path => [.required "path" path.Spelled]

def EachSpelled : List Filter → List Draft → Prop
  | [], ds => ds = []
  | f :: fs, ds =>
    ∃ c cs, ds = c :: cs ∧ RecordSpelling (.tag f.variant :: f.entries) c ∧ EachSpelled fs cs

end

def Spelled (f : Filter) : Draft → Prop :=
  RecordSpelling (.tag f.variant :: f.entries)

theorem eachSpelled_iff {fs : List Filter} {ds : List Draft} :
    EachSpelled fs ds ↔ List.Forall₂ Filter.Spelled fs ds := by
  induction fs generalizing ds with
  | nil => rw [EachSpelled, List.forall₂_nil_left_iff]
  | cons f fs ih =>
    simp only [EachSpelled, List.forall₂_cons_left_iff, ih]
    constructor
    · intro ⟨c, cs, hds, hc, hcs⟩
      exact ⟨c, cs, hc, hcs, hds⟩
    · intro ⟨c, cs, hc, hcs, hds⟩
      exact ⟨c, cs, hds, hc, hcs⟩

end Filter

/-- Ascending and not aggregated, where it does not say otherwise. -/
def SortKey.entries (k : SortKey) : List Entry :=
  [.required "path" k.path.Spelled,
    .defaulted "ascending" (FlagSpelling k.ascending) (k.ascending = true),
    .defaulted "aggregated" (FlagSpelling k.aggregated) (k.aggregated = false)]

def SortKey.Spelled (k : SortKey) : Draft → Prop :=
  RecordSpelling k.entries

/-- The first page, where it does not say otherwise. -/
def Pagination.entries (p : Pagination) : List Entry :=
  [.optional "page_size" WordSpelling p.pageSize,
    .defaulted "page_number" (WordSpelling p.pageNumber) (p.pageNumber = 1)]

def Pagination.Spelled (p : Pagination) : Draft → Prop :=
  RecordSpelling p.entries

def Layer.entries (l : Layer) : List Entry :=
  [.required "resource" (TextSpelling l.resource), .optional "filter" Filter.Spelled l.filter,
    .optional "sort" (ListSpelling SortKey.Spelled) l.sort,
    .optional "pagination" Pagination.Spelled l.pagination]

def Layer.Spelled (l : Layer) : Draft → Prop :=
  RecordSpelling l.entries

theorem Json.TextSpelling.whole {s : String} {d : Draft} (h : TextSpelling s d) : d.Whole := by
  cases h
  exact .string s

theorem Json.NameSpelling.whole {name : String} {d : Draft} (h : NameSpelling name d) :
    d.Whole := by
  rcases h with rfl | rfl
  · exact .string name
  · exact .object (by simp) (by simp [Draft.Whole.null])

theorem Json.ListSpelling.whole {α : Type} {Spells : α → Draft → Prop} {xs : List α} {d : Draft}
    (h : ListSpelling Spells xs d) (hxs : ∀ x ∈ xs, ∀ c, Spells x c → c.Whole) : d.Whole := by
  obtain ⟨ds, rfl, heach⟩ := h
  apply Draft.Whole.array
  intro c hc
  obtain ⟨x, hx, hspells⟩ := exists_left_of_forall₂ heach hc
  exact hxs x hx c hspells

theorem Attribute.Spelled.whole {a : Attribute} {d : Draft} (h : a.Spelled d) : d.Whole := by
  apply RecordSpelling.whole h
  simp only [Attribute.entries, List.forall_mem_cons, Entry.required_intact]
  exact ⟨fun _ => TextSpelling.whole, fun _ => NameSpelling.whole, List.forall_mem_nil _⟩

theorem FieldPath.Spelled.whole {path : FieldPath} {d : Draft} (h : path.Spelled d) : d.Whole :=
  ListSpelling.whole h fun _ _ _ => Attribute.Spelled.whole

theorem Operand.entries_intact (o : Operand) : ∀ e ∈ o.entries, e.Intact := by
  cases o <;>
    simp only [entries, List.forall_mem_cons, Entry.required_intact]
  case field path => exact ⟨fun _ => FieldPath.Spelled.whole, List.forall_mem_nil _⟩
  case literal value => exact ⟨fun _ => TextSpelling.whole, List.forall_mem_nil _⟩
  case null => exact List.forall_mem_nil _
  case count path => exact ⟨fun _ => FieldPath.Spelled.whole, List.forall_mem_nil _⟩

theorem Operand.Spelled.whole {o : Operand} {d : Draft} (h : o.Spelled d) : d.Whole := by
  apply RecordSpelling.whole h
  exact List.forall_mem_cons.mpr ⟨Entry.tag_intact _, o.entries_intact⟩

theorem Filter.entries_intact (f : Filter) : ∀ e ∈ f.entries, e.Intact := by
  have hspelled {g : Filter} (hg : ∀ e ∈ g.entries, e.Intact) (d : Draft) (hd : g.Spelled d) :
      d.Whole :=
    RecordSpelling.whole hd (List.forall_mem_cons.mpr ⟨Entry.tag_intact _, hg⟩)
  induction f with
  | comparison op left right =>
    rw [entries]
    simp only [List.forall_mem_cons, Entry.required_intact]
    exact ⟨fun _ => NameSpelling.whole, fun _ => Operand.Spelled.whole,
      fun _ => Operand.Spelled.whole, List.forall_mem_nil _⟩
  | matchText field text =>
    rw [entries]
    simp only [List.forall_mem_cons, Entry.required_intact]
    exact ⟨fun _ => FieldPath.Spelled.whole, fun _ => TextSpelling.whole, List.forall_mem_nil _⟩
  | equalsAnyOf field values =>
    rw [entries]
    simp only [List.forall_mem_cons, Entry.required_intact]
    have hvalues (d : Draft) (hd : ListSpelling TextSpelling values d) : d.Whole :=
      hd.whole fun _ _ _ => TextSpelling.whole
    exact ⟨fun _ => FieldPath.Spelled.whole, hvalues, List.forall_mem_nil _⟩
  | logical op terms ih =>
    rw [entries]
    simp only [List.forall_mem_cons, Entry.required_intact, eachSpelled_iff]
    have hterms (d : Draft) (hd : ListSpelling Filter.Spelled terms d) : d.Whole :=
      hd.whole fun t ht => hspelled (ih t ht)
    exact ⟨fun _ => NameSpelling.whole, hterms, List.forall_mem_nil _⟩
  | not term ih =>
    rw [entries]
    simp only [List.forall_mem_cons, Entry.required_intact]
    exact ⟨hspelled ih, List.forall_mem_nil _⟩
  | fieldPath path =>
    rw [entries]
    simp only [List.forall_mem_cons, Entry.required_intact]
    exact ⟨fun _ => FieldPath.Spelled.whole, List.forall_mem_nil _⟩
  | collectionNotEmpty path =>
    rw [entries]
    simp only [List.forall_mem_cons, Entry.required_intact]
    exact ⟨fun _ => FieldPath.Spelled.whole, List.forall_mem_nil _⟩

/-- Members that stand for the fields of a record spell it. -/
theorem Json.RecordSpelling.of_present {entries : List Entry} {ms : List (String × Json)}
    (h : Present entries (memberDrafts ms)) : RecordSpelling entries (Json.object ms).draft := by
  rw [Json.draft]
  exact .of_known h (.refl _)

theorem Json.Present.memberIf {α : Type} {name : String} {Spells : α → Draft → Prop} {o : Option α}
    {encode : α → Json} {entries : List Entry} {ms : List (String × Json)}
    (ho : ∀ x, o = some x → Spells x (encode x).draft) (h : Present entries (memberDrafts ms)) :
    Present (.optional name Spells o :: entries)
      (memberDrafts (Json.memberIf name (o.map encode) ++ ms)) := by
  cases o with
  | none => exact .lacking rfl h
  | some x => exact .given (ho x rfl) h

theorem Json.ListSpelling.map {α : Type} {Spells : α → Draft → Prop} {xs : List α}
    {encode : α → Json} (h : ∀ x ∈ xs, Spells x (encode x).draft) :
    ListSpelling Spells xs (Json.array (xs.map encode)).draft := by
  refine ⟨_, rfl, ?_⟩
  rw [Json.itemDrafts_eq_map, List.map_map, List.forall₂_map_right_iff, List.forall₂_same]
  exact h

theorem Attribute.spelled_toJson (a : Attribute) : a.Spelled a.toJson.draft :=
  .of_present (.given rfl (.given (.inl rfl) .nil))

theorem FieldPath.spelled_toJson (path : FieldPath) : path.Spelled path.toJson.draft :=
  .map fun a _ => a.spelled_toJson

theorem Operand.spelled_toJson (o : Operand) : o.Spelled o.toJson.draft := by
  cases o with
  | field path => exact .of_present (.given rfl (.given path.spelled_toJson .nil))
  | literal value => exact .of_present (.given rfl (.given rfl .nil))
  | null => exact .of_present (.given rfl .nil)
  | count path => exact .of_present (.given rfl (.given path.spelled_toJson .nil))

theorem Filter.spelled_toJson (f : Filter) : f.Spelled f.toJson.draft := by
  induction f with
  | comparison op left right =>
    rw [Spelled, entries, toJson]
    exact .of_present (.given rfl (.given (.inl rfl)
      (.given left.spelled_toJson (.given right.spelled_toJson .nil))))
  | matchText field text =>
    rw [Spelled, entries, toJson]
    exact .of_present (.given rfl (.given field.spelled_toJson (.given rfl .nil)))
  | equalsAnyOf field values =>
    rw [Spelled, entries, toJson]
    have hvalues : ListSpelling TextSpelling values (Json.strings values).draft :=
      .map fun _ _ => rfl
    exact .of_present (.given rfl (.given field.spelled_toJson (.given hvalues .nil)))
  | logical op terms ih =>
    rw [Spelled, entries, toJson]
    have hterms : ListSpelling Filter.Spelled terms (Json.array (listToJson terms)).draft := by
      rw [listToJson_eq_map]
      exact .map ih
    simp only [eachSpelled_iff]
    exact .of_present (.given rfl (.given (.inl rfl) (.given hterms .nil)))
  | not term ih =>
    rw [Spelled, entries, toJson]
    exact .of_present (.given rfl (.given ih .nil))
  | fieldPath path =>
    rw [Spelled, entries, toJson]
    exact .of_present (.given rfl (.given path.spelled_toJson .nil))
  | collectionNotEmpty path =>
    rw [Spelled, entries, toJson]
    exact .of_present (.given rfl (.given path.spelled_toJson .nil))

theorem SortKey.spelled_toJson (k : SortKey) : k.Spelled k.toJson.draft :=
  .of_present (.given k.path.spelled_toJson (.given rfl (.given rfl .nil)))

theorem Pagination.spelled_toJson (p : Pagination) : p.Spelled p.toJson.draft :=
  .of_present (.memberIf (fun _ _ => rfl) (.given rfl .nil))

theorem Layer.spelled_toJson (l : Layer) : l.Spelled l.toJson.draft := by
  have hsort (keys : List SortKey) : ListSpelling SortKey.Spelled keys (sortToJson keys).draft :=
    .map fun k _ => k.spelled_toJson
  have hpages : Present [.optional "pagination" Pagination.Spelled l.pagination]
      (Json.memberDrafts (Json.memberIf "pagination" (l.pagination.map Pagination.toJson))) := by
    rw [← List.append_nil (Json.memberIf _ _)]
    exact .memberIf (fun p _ => p.spelled_toJson) .nil
  apply RecordSpelling.of_present
  rw [List.append_assoc]
  exact .given rfl
    (.memberIf (fun f _ => f.spelled_toJson) (.memberIf (fun keys _ => hsort keys) hpages))

end ResourceQuery
