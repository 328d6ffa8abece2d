import ResourceQuery.Compile.Error
import ResourceQuery.Compile.Naming

namespace ResourceQuery

/-- The attribute of a path that follows no relationship. -/
def FieldPath.attribute (path : FieldPath) : Except CompileError Attribute :=
  match path with
  | [a] => .ok a
  | [] => .error .emptyPath
  | path => .error (.fieldChain path)

def Operand.path : Operand → Except CompileError FieldPath
  | field path => .ok path
  | o => .error (.leftNotField o)

def Operand.constant : Operand → Except CompileError String
  | literal value => .ok value
  | o => .error (.rightNotLiteral o)

/-- The field that a comparison asks about and the class as which its literal is read. Text beside the
identifier is the engine's own id. -/
def Attribute.comparedAs (a : Attribute) (op : Comparison) (literal : String) :
    Except CompileError (String × ScalarClass) :=
  if a.isIdentifier then
    if isInteger literal then .ok (databaseIdField, .integer)
    else if op = .eq then .ok (documentIdField, .text)
    else .error (.orderOnDocumentId op literal)
  else
    match a.type.class? with
    | some c => .ok (normalizeName a.name, c)
    | none => .error (.fieldType a.type)

/-- A comparison whose field, class and value have been settled. -/
structure Constraint where
  field : String
  expected : ScalarClass
  op : Comparison
  value : Scalar
  deriving DecidableEq, Repr

def constraint (op : Comparison) (left right : Operand) : Except CompileError Constraint := do
  let a ← (← left.path).attribute
  let literal ← right.constant
  let (field, expected) ← a.comparedAs op literal
  match expected.parse? literal with
  | some value => return ⟨field, expected, op, value⟩
  | none => .error (.badLiteral field literal expected)

def Constraint.clause (c : Constraint) : Clause :=
  match c.op with
  | .eq => .term c.field c.value
  | .gt => .range c.field .gt c.value
  | .ge => .range c.field .gte c.value
  | .lt => .range c.field .lt c.value
  | .le => .range c.field .lte c.value

def group (op : Connective) : List Clause → Except CompileError Clause
  | [] => .error (.emptyGroup op)
  | [c] => .ok c
  | cs =>
    match op with
    | .and => .ok (.all cs)
    | .or => .ok (.any cs)

mutual

def Filter.compile : Filter → Except CompileError Clause
  | .comparison op left right => Constraint.clause <$> constraint op left right
  | .matchText field text => do
    let a ← field.attribute
    return .fuzzy (a.targetField [text]) text
  | .equalsAnyOf field values => do
    let a ← field.attribute
    return .terms (a.targetField values) values
  | .logical op terms => do group op (← Filter.compileAll terms)
  | .not _ => .error .negation
  | .fieldPath path => .error (.bareField path)
  | .collectionNotEmpty path => .error (.relationshipCheck path)

/-- Term by term; the first error is the error of all. -/
def Filter.compileAll : List Filter → Except CompileError (List Clause)
  | [] => .ok []
  | f :: fs => do
    let c ← f.compile
    let cs ← Filter.compileAll fs
    return c :: cs

end

end ResourceQuery
