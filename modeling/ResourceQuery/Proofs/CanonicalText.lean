import ResourceQuery.Proofs.JsonNesting
import ResourceQuery.Proofs.QueryDepth
import ResourceQuery.Proofs.QueryReading
import ResourceQuery.Query.Fingerprint

namespace ResourceQuery

open Json (Draft Integral)

theorem FieldPath.toJson_integral (path : FieldPath) : Integral path.toJson := by
  apply Integral.array
  intro v hv
  obtain ⟨a, -, rfl⟩ := List.mem_map.mp hv
  apply Integral.object
  intro m hm
  simp only [List.mem_cons, List.not_mem_nil, or_false] at hm
  rcases hm with rfl | rfl
  · exact .string a.name
  · exact .string a.type.name

theorem Operand.toJson_integral (o : Operand) : Integral o.toJson := by
  cases o with
  | field path =>
    apply Integral.object
    simp [Integral.string, path.toJson_integral]
  | literal value =>
    apply Integral.object
    simp [Integral.string]
  | null =>
    apply Integral.object
    simp [Integral.string]
  | count path =>
    apply Integral.object
    simp [Integral.string, path.toJson_integral]

theorem Filter.toJson_integral (f : Filter) : Integral f.toJson := by
  induction f with
  | comparison op left right =>
    rw [Filter.toJson]
    apply Integral.object
    simp [Integral.string, left.toJson_integral, right.toJson_integral]
  | matchText field text =>
    rw [Filter.toJson]
    apply Integral.object
    simp [Integral.string, field.toJson_integral]
  | equalsAnyOf field values =>
    have hvalues : Integral (Json.strings values) := by
      apply Integral.array
      simp [Integral.string]
    rw [Filter.toJson]
    apply Integral.object
    simp [Integral.string, field.toJson_integral, hvalues]
  | logical op terms ih =>
    have hterms : Integral (.array (listToJson terms)) := by
      rw [Filter.listToJson_eq_map]
      apply Integral.array
      intro v hv
      obtain ⟨t, ht, rfl⟩ := List.mem_map.mp hv
      exact ih t ht
    rw [Filter.toJson]
    apply Integral.object
    simp [Integral.string, hterms]
  | not term ih =>
    rw [Filter.toJson]
    apply Integral.object
    simp [Integral.string, ih]
  | fieldPath path =>
    rw [Filter.toJson]
    apply Integral.object
    simp [Integral.string, path.toJson_integral]
  | collectionNotEmpty path =>
    rw [Filter.toJson]
    apply Integral.object
    simp [Integral.string, path.toJson_integral]

theorem sortToJson_integral (keys : List SortKey) : Integral (sortToJson keys) := by
  apply Integral.array
  intro v hv
  obtain ⟨k, -, rfl⟩ := List.mem_map.mp hv
  apply Integral.object
  simp [Integral.bool, k.path.toJson_integral]

theorem Json.nat_integral (n : UInt32) : Integral (Json.nat n.toNat) := by
  have hlt := n.toNat_lt
  exact .number (by omega) (by omega)

theorem Pagination.toJson_integral (p : Pagination) : Integral p.toJson := by
  apply Integral.object
  cases p.pageSize <;> simp [Json.memberIf, Json.nat_integral]

theorem Layer.toJson_integral (l : Layer) : Integral l.toJson := by
  apply Integral.object
  intro m hm
  simp only [List.mem_cons, List.mem_append] at hm
  rcases hm with rfl | (hm | hm) | hm
  · exact .string l.resource
  · exact Json.forall_memberIf (fun f _ => Filter.toJson_integral f) m hm
  · exact Json.forall_memberIf (fun keys _ => sortToJson_integral keys) m hm
  · exact Json.forall_memberIf (fun p _ => Pagination.toJson_integral p) m hm

theorem Layer.nesting_canonical (l : Layer) : Json.nesting l.canonical = l.toJson.depth :=
  Json.nesting_compact l.toJson_integral

theorem Layer.parse_canonical {l : Layer} (h : Json.nesting l.canonical ≤ Json.nestingLimit) :
    Layer.parse l.canonical = .ok l := by
  rw [Layer.nesting_canonical] at h
  rw [Layer.parse, Layer.canonical, Json.decodeText_compact _ l.toJson_integral]
  exact Layer.decode_toJson h

theorem Layer.nesting_of_parse {s : String} {l : Layer} (h : Layer.parse s = .ok l) :
    Json.nesting l.canonical ≤ Json.nestingLimit := by
  obtain ⟨again, hdecode, h⟩ := bind_ok_iff.mp h
  obtain ⟨-, -, h⟩ := bind_ok_iff.mp h
  cases h
  rw [Layer.nesting_canonical]
  exact Layer.depth_of_decode hdecode

/-- The canonical text of a layer is read as the layer, as long as it nests no deeper than any text
may; and every layer that was read from a text is such a layer, so that writing it and reading it
again changes neither the layer nor its fingerprint. -/
theorem canonical_text_round_trip :
    (∀ l : Layer, Json.nesting l.canonical ≤ Json.nestingLimit →
      Layer.parse l.canonical = .ok l) ∧
    ∀ (s : String) (l : Layer), Layer.parse s = .ok l →
      Json.nesting l.canonical ≤ Json.nestingLimit ∧
        Layer.parse l.canonical = .ok l ∧
        (Layer.parse l.canonical).map Layer.fingerprint = .ok l.fingerprint := by
  refine ⟨fun l h => Layer.parse_canonical h, ?_⟩
  intro s l h
  have hnesting := Layer.nesting_of_parse h
  have hparse := Layer.parse_canonical hnesting
  refine ⟨hnesting, hparse, ?_⟩
  rw [hparse]
  rfl

/-- A layer whose record, filter and attribute are written as arrays, and a type as an object. -/
def arrayLayerText : String :=
  "[\"P\\u00e9\", [\"CollectionNotEmpty\", [[\"tags\", \x7b\"Collection\": null\x7d]]]]"

def arrayFilter : Draft :=
  .array [.string (.ok "CollectionNotEmpty"),
    .array [.array [.string (.ok "tags"), .object [(.ok "Collection", .null)] none] none] none] none

def arrayLayer : Layer where
  resource := "Pé"
  filter := some (.collectionNotEmpty [⟨"tags", .collection⟩])
  sort := none
  pagination := none

theorem arrayLayer_parse : Layer.parse arrayLayerText = .ok arrayLayer := by
  have htext : Json.readText arrayLayerText.toList =
      ⟨.array [.string (.ok "Pé"), arrayFilter] none, .ok []⟩ := by
    cbv
  have hfilter : Filter.decode .text 126 arrayFilter =
      .ok (.collectionNotEmpty [⟨"tags", .collection⟩]) := by
    rw [Filter.decode]
    rfl
  have hnull : arrayFilter ≠ .null := by
    intro h
    cases h
  have hoptional := Json.Draft.optional_of_ok hnull hfilter
  have hlayer : Layer.decode Json.nestingLimit (.array [.string (.ok "Pé"), arrayFilter] none) =
      .ok arrayLayer := by
    simp [Layer.decode, Json.nestingLimit, Draft.record, Layer.fields, Json.takeItems, Json.Slot.of,
      Draft.text, hoptional, Json.noMore, Json.need, Draft.intact, Except.map, arrayLayer]
  simp [Layer.parse, Json.decodeText, htext, hlayer, Json.atEnd, Json.skipSpace]

theorem arrayLayer_round_trip :
    Layer.parse arrayLayerText = .ok arrayLayer ∧
      Json.nesting arrayLayer.canonical ≤ Json.nestingLimit ∧
      Layer.parse arrayLayer.canonical = .ok arrayLayer ∧
      (Layer.parse arrayLayer.canonical).map Layer.fingerprint = .ok arrayLayer.fingerprint := by
  have hback := canonical_text_round_trip.2 arrayLayerText arrayLayer arrayLayer_parse
  exact ⟨arrayLayer_parse, hback.1, canonical_text_round_trip.1 arrayLayer hback.1, hback.2.2⟩

end ResourceQuery
