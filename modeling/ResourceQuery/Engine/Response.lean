import ResourceQuery.Json.Decode

namespace ResourceQuery

open Json (Draft Slot Error need)

structure Hit where
  id : String
  source : Json
  deriving Repr

/-- The hits in the engine's ranking. -/
structure SearchResponse where
  hits : List Hit
  deriving Repr

structure CountResponse where
  count : Nat
  deriving DecidableEq, Repr

def SearchResponse.documents (r : SearchResponse) : List Json :=
  r.hits.map Hit.source

def Hit.toJson (h : Hit) : Json :=
  .object [("_id", .string h.id), ("_source", h.source)]

def SearchResponse.toJson (r : SearchResponse) : Json :=
  .object [("hits", .object [("hits", .array (r.hits.map Hit.toJson))])]

def maxCount : Nat := 2147483647

/-- The count, or the largest 32-bit integer if it is larger. -/
def CountResponse.clamped (r : CountResponse) : Nat :=
  min r.count maxCount

def CountResponse.isClamped (r : CountResponse) : Bool :=
  maxCount < r.count

def CountResponse.toJson (r : CountResponse) : Json :=
  .object [("count", Json.nat r.count)]

namespace Hit

structure Parts where
  id : Option String
  source : Option Json

def fields (room : Nat) : List (Slot Parts) :=
  [.of "_id" false (·.id) (fun p v => { p with id := v }) Draft.text,
   .of "_source" true (·.source) (fun p v => { p with source := v }) (Draft.value room)]

/-- Without a document the document is null. -/
def decode (room : Nat) (d : Draft) : Except Error Hit := do
  let p ← d.record .text "struct Hit" fields ⟨none, none⟩ room
  return ⟨← need "_id" p.id, p.source.getD .null⟩

end Hit

namespace SearchResponse

/-- A record of one list that may be absent. -/
def decodeHits (title : String) (decode : Nat → Draft → Except Error (List Hit)) (room : Nat)
    (d : Draft) : Except Error (List Hit) := do
  let fields room := [Slot.of "hits" true id (fun _ v => v) (decode room)]
  return (← d.record .text title fields none room).getD []

/-- The list of hits lies in an object of the same name. -/
def decode (room : Nat) (d : Draft) : Except Error SearchResponse :=
  SearchResponse.mk <$>
    decodeHits "struct SearchResponse" (decodeHits "struct Hits" (Draft.list Hit.decode)) room d

/-- Reads a reply from its JSON text. -/
def parse (s : String) : Except Error SearchResponse :=
  Json.decodeText decode s

def canonical (r : SearchResponse) : String :=
  r.toJson.compact

end SearchResponse

def CountResponse.decode (room : Nat) (d : Draft) : Except Error CountResponse := do
  let fields (_ : Nat) := [Slot.of "count" false id (fun _ v => v) (Draft.natural 64)]
  return ⟨← need "count" (← d.record .text "struct CountResponse" fields none room)⟩

end ResourceQuery
