import ResourceQuery.Query.Attribute

namespace ResourceQuery

inductive Comparison where
  | eq
  | gt
  | ge
  | lt
  | le
  deriving DecidableEq, Repr

namespace Comparison

def all : List Comparison :=
  [eq, gt, ge, lt, le]

def name : Comparison → String
  | eq => "Eq"
  | gt => "Gt"
  | ge => "Ge"
  | lt => "Lt"
  | le => "Le"

end Comparison

inductive Connective where
  | and
  | or
  deriving DecidableEq, Repr

namespace Connective

def all : List Connective :=
  [and, or]

def name : Connective → String
  | and => "And"
  | or => "Or"

end Connective

/-- A side of a comparison. -/
inductive Operand where
  | field (path : FieldPath)
  | literal (value : String)
  | null
  /-- The number of related resources. -/
  | count (path : FieldPath)
  deriving DecidableEq, Repr

def Operand.describe : Operand → String
  | field path => "field '" ++ path.dotted ++ "'"
  | literal value => "literal '" ++ value ++ "'"
  | null => "null"
  | count path => "count(" ++ path.dotted ++ ")"

inductive Filter where
  | comparison (op : Comparison) (left right : Operand)
  | matchText (field : FieldPath) (text : String)
  | equalsAnyOf (field : FieldPath) (values : List String)
  | logical (op : Connective) (terms : List Filter)
  | not (term : Filter)
  | fieldPath (path : FieldPath)
  | collectionNotEmpty (path : FieldPath)
  deriving Repr, BEq

/-- Induction on the tree, with the hypothesis for each term of a group. -/
@[induction_eliminator]
theorem Filter.tree_induction {motive : Filter → Prop}
    (comparison : ∀ op left right, motive (.comparison op left right))
    (matchText : ∀ field text, motive (.matchText field text))
    (equalsAnyOf : ∀ field values, motive (.equalsAnyOf field values))
    (logical : ∀ op terms, (∀ t ∈ terms, motive t) → motive (.logical op terms))
    (not : ∀ term, motive term → motive (.not term))
    (fieldPath : ∀ path, motive (.fieldPath path))
    (collectionNotEmpty : ∀ path, motive (.collectionNotEmpty path)) (f : Filter) : motive f :=
  @Filter.rec motive (fun ts => ∀ t ∈ ts, motive t) comparison matchText equalsAnyOf logical not
    fieldPath collectionNotEmpty (by simp)
    (fun _ _ ht hts => List.forall_mem_cons.mpr ⟨ht, hts⟩) f

end ResourceQuery
