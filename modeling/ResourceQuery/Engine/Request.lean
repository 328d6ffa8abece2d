import ResourceQuery.Engine.Clause

namespace ResourceQuery

inductive Direction where
  | asc
  | desc
  deriving DecidableEq, Repr

def Direction.name : Direction → String
  | asc => "asc"
  | desc => "desc"

structure SortClause where
  field : String
  direction : Direction
  deriving DecidableEq, Repr

def SortClause.toJson (s : SortClause) : Json :=
  .single s.field (.single "order" (.string s.direction.name))

structure SearchRequest where
  index : String
  /-- Without a query all documents match. -/
  query : Option Clause
  sort : List SortClause
  start : Option Nat
  size : Option Nat
  deriving Repr

def SearchRequest.body (r : SearchRequest) : Json :=
  .object (Json.memberIf "from" (r.start.map Json.nat) ++
    Json.memberIf "query" (r.query.map Clause.toJson) ++
    Json.memberIf "size" (r.size.map Json.nat) ++
    Json.memberIf "sort" (if r.sort.isEmpty then none else some (.array (r.sort.map SortClause.toJson))))

def SearchRequest.encode (r : SearchRequest) : String :=
  r.body.pretty

structure CountRequest where
  index : String
  query : Option Clause
  deriving Repr

def CountRequest.body (r : CountRequest) : Json :=
  .object (Json.memberIf "query" (r.query.map Clause.toJson))

def CountRequest.encode (r : CountRequest) : String :=
  r.body.pretty

end ResourceQuery
