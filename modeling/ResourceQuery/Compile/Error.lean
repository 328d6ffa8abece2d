import ResourceQuery.Compile.ScalarClass
import ResourceQuery.Query.Filter

namespace ResourceQuery

inductive CompileError where
  | emptyPath
  | negation
  | bareField (path : FieldPath)
  | relationshipCheck (path : FieldPath)
  | emptyGroup (op : Connective)
  /-- The engine's own id can only be tested for equality. -/
  | orderOnDocumentId (op : Comparison) (literal : String)
  | fieldChain (path : FieldPath)
  | leftNotField (operand : Operand)
  | rightNotLiteral (operand : Operand)
  | badLiteral (field literal : String) (expected : ScalarClass)
  | fieldType (type : DeclaredType)
  | aggregateSort (path : FieldPath)
  deriving DecidableEq, Repr

namespace CompileError

inductive Kind where
  | expression
  | fieldChain
  | operand
  | literal
  | fieldType
  | aggregateSort
  deriving DecidableEq, Repr

def kind : CompileError → Kind
  | emptyPath | negation | bareField _ | relationshipCheck _ | emptyGroup _ | orderOnDocumentId .. =>
    .expression
  | fieldChain _ => .fieldChain
  | leftNotField _ | rightNotLiteral _ => .operand
  | badLiteral .. => .literal
  | fieldType _ => .fieldType
  | aggregateSort _ => .aggregateSort

def detail : CompileError → String
  | emptyPath => "empty field path"
  | negation => "unary operator \"not\" is not supported"
  | bareField path => "bare field '" ++ path.dotted ++ "' is not a filter"
  | relationshipCheck path => "relationship check on '" ++ path.dotted ++ "' is not supported"
  | emptyGroup op => "empty " ++ op.name ++ " group"
  | orderOnDocumentId op literal =>
    op.name ++ " on document id '" ++ literal ++ "', only equality is supported"
  | fieldChain path =>
    "Field chain '" ++ path.dotted ++ "' not supported, only direct attributes can be queried"
  | leftNotField operand => "left operand must be a field, got " ++ operand.describe
  | rightNotLiteral operand => "right operand must be a literal constant, got " ++ operand.describe
  | badLiteral field literal expected =>
    "Cannot parse '" ++ literal ++ "' as " ++ expected.describe ++ " for field '" ++ field ++ "'"
  | fieldType type => type.name
  | aggregateSort path => path.dotted

def message (e : CompileError) : String :=
  match e.kind with
  | .expression => "Unsupported expression: " ++ e.detail
  | .operand => "Non-literal operand: " ++ e.detail
  | .fieldType => "Unsupported field type: " ++ e.detail
  | .aggregateSort => "Aggregating sort not supported: " ++ e.detail
  | .fieldChain | .literal => e.detail

end CompileError

end ResourceQuery
