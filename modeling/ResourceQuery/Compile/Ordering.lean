import ResourceQuery.Compile.Constraint
import ResourceQuery.Engine.Request
import ResourceQuery.Query.Layer

namespace ResourceQuery

def SortKey.compile (k : SortKey) : Except CompileError SortClause := do
  let a ← k.path.attribute
  if k.aggregated then .error (.aggregateSort k.path)
  else return ⟨normalizeName a.name, if k.ascending then .asc else .desc⟩

def compileSort (keys : List SortKey) : Except CompileError (List SortClause) :=
  keys.mapM SortKey.compile

/-- Sorting by nothing but the identifier, ascending: the engine's own order. -/
def isIdentifierOrder : List SortKey → Bool
  | [⟨[a], true, false⟩] => a.isIdentifier
  | _ => false

end ResourceQuery
