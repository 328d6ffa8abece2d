import ResourceQuery.Json.Decode
import ResourceQuery.Query.Layer

namespace ResourceQuery

open Json (Draft Source Slot Error need)

/-- The value whose name was read; the names are those of all values. -/
def named {α : Type} (all : List α) (name : α → String) (s : String) : Except Error α :=
  match all.find? fun v => name v = s with
  | some v => .ok v
  | none => Json.misshapen (.unknownVariant s (all.map name))

def unitOf {α : Type} (all : List α) (name : α → String) (source : Source) (room : Nat) (d : Draft) :
    Except Error α := do
  named all name (← d.unitChoice source (all.map name) room)

def DeclaredType.decode : Source → Nat → Draft → Except Error DeclaredType :=
  unitOf DeclaredType.all DeclaredType.name

def Comparison.decode : Nat → Draft → Except Error Comparison :=
  unitOf Comparison.all Comparison.name .held

def Connective.decode : Nat → Draft → Except Error Connective :=
  unitOf Connective.all Connective.name .held

namespace Attribute

/-- What is known of an attribute while it is read. -/
structure Parts where
  name : Option String
  type : Option DeclaredType

def fields (source : Source) (room : Nat) : List (Slot Parts) :=
  [.of "name" false (·.name) (fun p v => { p with name := v }) Draft.text,
   .of "type" false (·.type) (fun p v => { p with type := v }) (DeclaredType.decode source room)]

def decode (source : Source) (room : Nat) (d : Draft) : Except Error Attribute := do
  let p ← d.record source "struct AttrRef" (fields source) ⟨none, none⟩ room
  return ⟨← need "name" p.name, ← need "type" p.type⟩

end Attribute

def FieldPath.decode (source : Source) (room : Nat) (d : Draft) : Except Error FieldPath :=
  d.list (Attribute.decode source) room

/-- A record of one field. -/
def recordOf {α : Type} (source : Source) (title name : String) (decode : Nat → Draft → Except Error α)
    (room : Nat) (d : Draft) : Except Error α := do
  let fields room := [Slot.of name false id (fun _ v => v) (decode room)]
  need name (← d.record source title fields none room)

namespace Operand

def names : List String :=
  ["Field", "Literal", "Null", "Count"]

def decode (source : Source) (room : Nat) (d : Draft) : Except Error Operand := do
  let (name, rest) ← d.tagged source "internally tagged enum Operand" "type" names room
  let title := "struct variant Operand::" ++ name
  match name with
  | "Field" => Operand.field <$> recordOf .held title "path" (FieldPath.decode .held) room rest
  | "Literal" => Operand.literal <$> recordOf .held title "value" (fun _ => Draft.text) room rest
  | "Null" => do
    rest.unitRest
    return .null
  | _ => Operand.count <$> recordOf .held title "path" (FieldPath.decode .held) room rest

end Operand

namespace Filter

def names : List String :=
  ["Comparison", "MatchText", "EqualsAnyOf", "Logical", "Not", "FieldPath", "CollectionNotEmpty"]

structure ComparisonParts where
  op : Option Comparison
  left : Option Operand
  right : Option Operand

def comparisonFields (room : Nat) : List (Slot ComparisonParts) :=
  [.of "op" false (·.op) (fun p v => { p with op := v }) (Comparison.decode room),
   .of "left" false (·.left) (fun p v => { p with left := v }) (Operand.decode .held room),
   .of "right" false (·.right) (fun p v => { p with right := v }) (Operand.decode .held room)]

def decodeComparison (title : String) (room : Nat) (d : Draft) : Except Error Filter := do
  let p ← d.record .held title comparisonFields ⟨none, none, none⟩ room
  return .comparison (← need "op" p.op) (← need "left" p.left) (← need "right" p.right)

structure MatchTextParts where
  field : Option FieldPath
  text : Option String

def matchTextFields (room : Nat) : List (Slot MatchTextParts) :=
  [.of "field" false (·.field) (fun p v => { p with field := v }) (FieldPath.decode .held room),
   .of "text" false (·.text) (fun p v => { p with text := v }) Draft.text]

def decodeMatchText (title : String) (room : Nat) (d : Draft) : Except Error Filter := do
  let p ← d.record .held title matchTextFields ⟨none, none⟩ room
  return .matchText (← need "field" p.field) (← need "text" p.text)

structure EqualsAnyOfParts where
  field : Option FieldPath
  values : Option (List String)

def equalsAnyOfFields (room : Nat) : List (Slot EqualsAnyOfParts) :=
  [.of "field" false (·.field) (fun p v => { p with field := v }) (FieldPath.decode .held room),
   .of "values" false (·.values) (fun p v => { p with values := v })
     (Draft.list (fun _ => Draft.text) room)]

def decodeEqualsAnyOf (title : String) (room : Nat) (d : Draft) : Except Error Filter := do
  let p ← d.record .held title equalsAnyOfFields ⟨none, none⟩ room
  return .equalsAnyOf (← need "field" p.field) (← need "values" p.values)

structure LogicalParts where
  op : Option Connective
  terms : Option (List Filter)

def logicalFields (terms : Draft → Except Error (List Filter)) (room : Nat) :
    List (Slot LogicalParts) :=
  [.of "op" false (·.op) (fun p v => { p with op := v }) (Connective.decode room),
   .of "terms" false (·.terms) (fun p v => { p with terms := v }) terms]

def decodeLogical (terms : Draft → Except Error (List Filter)) (title : String) (room : Nat)
    (d : Draft) : Except Error Filter := do
  let p ← d.record .held title (logicalFields terms) ⟨none, none⟩ room
  return .logical (← need "op" p.op) (← need "terms" p.terms)

/-- A filter of a given name. `term` and `terms` read the filters inside it. -/
def decodeNamed (term : Draft → Except Error Filter) (terms : Draft → Except Error (List Filter))
    (name : String) (room : Nat) (d : Draft) : Except Error Filter :=
  let title := "struct variant FilterExpr::" ++ name
  match name with
  | "Comparison" => decodeComparison title room d
  | "MatchText" => decodeMatchText title room d
  | "EqualsAnyOf" => decodeEqualsAnyOf title room d
  | "Logical" => decodeLogical terms title room d
  | "Not" => Filter.not <$> recordOf .held title "term" (fun _ => term) room d
  | "FieldPath" => Filter.fieldPath <$> recordOf .held title "path" (FieldPath.decode .held) room d
  | _ => Filter.collectionNotEmpty <$> recordOf .held title "path" (FieldPath.decode .held) room d

def tooDeep {α : Type} (_ : Draft) : Except Error α :=
  Json.malformed .nestedTooDeep

/-- A filter opens one container, and its list of terms another. -/
def decode (source : Source) (room : Nat) (d : Draft) : Except Error Filter := do
  let (name, rest) ← d.tagged source "internally tagged enum FilterExpr" "type" names room
  match room with
  | room + 2 =>
    decodeNamed (decode .held (room + 1)) (Draft.list (fun _ => decode .held room) (room + 1)) name
      (room + 2) rest
  | 1 => decodeNamed (decode .held 0) tooDeep name 1 rest
  | 0 => tooDeep rest

end Filter

namespace SortKey

structure Parts where
  path : Option FieldPath
  ascending : Option Bool
  aggregated : Option Bool

def fields (room : Nat) : List (Slot Parts) :=
  [.of "path" false (·.path) (fun p v => { p with path := v }) (FieldPath.decode .text room),
   .of "ascending" true (·.ascending) (fun p v => { p with ascending := v }) Draft.boolean,
   .of "aggregated" true (·.aggregated) (fun p v => { p with aggregated := v }) Draft.boolean]

/-- Ascending and not aggregated unless it says otherwise. -/
def decode (room : Nat) (d : Draft) : Except Error SortKey := do
  let p ← d.record .text "struct SortElement" fields ⟨none, none, none⟩ room
  return ⟨← need "path" p.path, p.ascending.getD true, p.aggregated.getD false⟩

end SortKey

def decodeSort (room : Nat) (d : Draft) : Except Error (List SortKey) :=
  d.list SortKey.decode room

namespace Pagination

structure Parts where
  pageSize : Option (Option UInt32)
  pageNumber : Option UInt32

def word (d : Draft) : Except Error UInt32 :=
  UInt32.ofNat <$> d.natural 32

def fields (_ : Nat) : List (Slot Parts) :=
  [.of "page_size" true (·.pageSize) (fun p v => { p with pageSize := v }) (Draft.optional word),
   .of "page_number" true (·.pageNumber) (fun p v => { p with pageNumber := v }) word]

/-- The first page unless it says otherwise. -/
def decode (room : Nat) (d : Draft) : Except Error Pagination := do
  let p ← d.record .text "struct Pagination" fields ⟨none, none⟩ room
  return ⟨p.pageSize.join, p.pageNumber.getD 1⟩

end Pagination

namespace Layer

structure Parts where
  resource : Option String
  filter : Option (Option Filter)
  sort : Option (Option (List SortKey))
  pagination : Option (Option Pagination)

def fields (room : Nat) : List (Slot Parts) :=
  [.of "resource" false (·.resource) (fun p v => { p with resource := v }) Draft.text,
   .of "filter" true (·.filter) (fun p v => { p with filter := v })
     (Draft.optional (Filter.decode .text room)),
   .of "sort" true (·.sort) (fun p v => { p with sort := v }) (Draft.optional (decodeSort room)),
   .of "pagination" true (·.pagination) (fun p v => { p with pagination := v })
     (Draft.optional (Pagination.decode room))]

def decode (room : Nat) (d : Draft) : Except Error Layer := do
  let p ← d.record .text "struct QueryLayer" fields ⟨none, none, none, none⟩ room
  return ⟨← need "resource" p.resource, p.filter.join, p.sort.join, p.pagination.join⟩

end Layer

/-- Reads a layer from its JSON text. -/
def Layer.parse (s : String) : Except Error Layer :=
  Json.decodeText Layer.decode s

end ResourceQuery
