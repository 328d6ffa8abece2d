import ResourceQuery.Compile.Ordering
import ResourceQuery.Json.Decode

namespace ResourceQuery

structure Options where
  /-- Leave out a sort that the engine's own order satisfies. -/
  suppressIdentifierSort : Bool
  deriving DecidableEq, Repr

namespace Options

def default : Options :=
  ⟨true⟩

def toJson (o : Options) : Json :=
  .single "suppress_identifier_sort" (.bool o.suppressIdentifierSort)

open Json (Draft Slot Error)

def decode (room : Nat) (d : Draft) : Except Error Options := do
  let fields (_ : Nat) :=
    [Slot.of "suppress_identifier_sort" true id (fun _ v => v) Draft.boolean]
  let flag ← d.record .text "struct AssemblerOptions" fields none room
  return ⟨flag.getD default.suppressIdentifierSort⟩

end Options

/-- How many pages stand in front of a page; page 0 is page 1. -/
def Pagination.pagesBefore (p : Pagination) : UInt32 :=
  if p.pageNumber = 0 then 0 else p.pageNumber - 1

/-- Offset and length of a page, in 64 bits. -/
def Pagination.window (p : Pagination) : Option (Nat × Nat) :=
  p.pageSize.map fun size =>
    ((size.toUInt64 * p.pagesBefore.toUInt64).toNat, size.toUInt64.toNat)

def compileFilter : Option Filter → Except CompileError (Option Clause)
  | some f => some <$> f.compile
  | none => .ok none

/-- Whether a sort is left to the engine. -/
def Options.suppresses (o : Options) (keys : List SortKey) : Bool :=
  o.suppressIdentifierSort && isIdentifierOrder keys

def Options.compileSort (o : Options) : Option (List SortKey) → Except CompileError (List SortClause)
  | some keys => if o.suppresses keys then .ok [] else ResourceQuery.compileSort keys
  | none => .ok []

/-- The filter first, then the sort. -/
def Options.search (o : Options) (index : String) (filter : Option Filter)
    (sort : Option (List SortKey)) (page : Option Pagination) : Except CompileError SearchRequest := do
  let query ← compileFilter filter
  let sort ← o.compileSort sort
  let window := page.bind Pagination.window
  return ⟨index, query, sort, window.map Prod.fst, window.map Prod.snd⟩

def Options.translate (o : Options) (index : String) (l : Layer) : Except CompileError SearchRequest :=
  o.search index l.filter l.sort l.pagination

def countRequest (index : String) (filter : Option Filter) : Except CompileError CountRequest := do
  return ⟨index, ← compileFilter filter⟩

end ResourceQuery
