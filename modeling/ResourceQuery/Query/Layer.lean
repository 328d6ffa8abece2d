import ResourceQuery.Query.Filter

namespace ResourceQuery

structure SortKey where
  path : FieldPath
  ascending : Bool
  /-- Ordered by the size of a relationship, not by a value. -/
  aggregated : Bool
  deriving DecidableEq, Repr

structure Pagination where
  pageSize : Option UInt32
  /-- Pages count from 1. -/
  pageNumber : UInt32
  deriving DecidableEq, Repr

structure Layer where
  resource : String
  filter : Option Filter
  sort : Option (List SortKey)
  pagination : Option Pagination
  deriving Repr, BEq

end ResourceQuery
