import ResourceQuery.Json.Basic
import ResourceQuery.Query.Layer

namespace ResourceQuery

def DeclaredType.toJson (t : DeclaredType) : Json :=
  .string t.name

def Attribute.toJson (a : Attribute) : Json :=
  .object [("name", .string a.name), ("type", a.type.toJson)]

def FieldPath.toJson (path : FieldPath) : Json :=
  .array (path.map Attribute.toJson)

def Operand.toJson : Operand → Json
  | field path => .object [("type", .string "Field"), ("path", path.toJson)]
  | literal value => .object [("type", .string "Literal"), ("value", .string value)]
  | null => .object [("type", .string "Null")]
  | count path => .object [("type", .string "Count"), ("path", path.toJson)]

mutual

def Filter.toJson : Filter → Json
  | .comparison op left right =>
    .object [("type", .string "Comparison"), ("op", .string op.name), ("left", left.toJson),
      ("right", right.toJson)]
  | .matchText field text =>
    .object [("type", .string "MatchText"), ("field", field.toJson), ("text", .string text)]
  | .equalsAnyOf field values =>
    .object [("type", .string "EqualsAnyOf"), ("field", field.toJson), ("values", Json.strings values)]
  | .logical op terms =>
    .object [("type", .string "Logical"), ("op", .string op.name), ("terms", .array (Filter.listToJson terms))]
  | .not term => .object [("type", .string "Not"), ("term", term.toJson)]
  | .fieldPath path => .object [("type", .string "FieldPath"), ("path", path.toJson)]
  | .collectionNotEmpty path =>
    .object [("type", .string "CollectionNotEmpty"), ("path", path.toJson)]

def Filter.listToJson : List Filter → List Json
  | [] => []
  | f :: fs => f.toJson :: Filter.listToJson fs

end

theorem Filter.listToJson_eq_map (fs : List Filter) :
    Filter.listToJson fs = fs.map Filter.toJson := by
  induction fs with
  | nil => rw [Filter.listToJson, List.map_nil]
  | cons f fs ih => rw [Filter.listToJson, List.map_cons, ih]

def SortKey.toJson (k : SortKey) : Json :=
  .object [("path", k.path.toJson), ("ascending", .bool k.ascending),
    ("aggregated", .bool k.aggregated)]

def sortToJson (keys : List SortKey) : Json :=
  .array (keys.map SortKey.toJson)

def Pagination.toJson (p : Pagination) : Json :=
  .object (Json.memberIf "page_size" (p.pageSize.map fun n => Json.nat n.toNat) ++
    [("page_number", Json.nat p.pageNumber.toNat)])

def Layer.toJson (l : Layer) : Json :=
  .object (("resource", .string l.resource) ::
    (Json.memberIf "filter" (l.filter.map Filter.toJson) ++
      Json.memberIf "sort" (l.sort.map sortToJson) ++
      Json.memberIf "pagination" (l.pagination.map Pagination.toJson)))

end ResourceQuery
