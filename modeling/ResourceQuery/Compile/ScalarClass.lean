import ResourceQuery.Engine.Clause
import ResourceQuery.Number.Decimal
import ResourceQuery.Query.Attribute
import ResourceQuery.Time.Written

namespace ResourceQuery

inductive ScalarClass where
  | integer
  | float
  | dateTime
  | text
  deriving DecidableEq, Repr

namespace ScalarClass

def describe : ScalarClass → String
  | integer => "integer"
  | float => "floating-point number"
  | dateTime => "date-time"
  | text => "text"

/-- The scalar that a literal denotes. -/
def parse? (c : ScalarClass) (literal : String) : Option Scalar :=
  match c with
  | integer => (Number.parseInteger? literal.toList).map .long
  | float => (Number.parseFloat? literal.toList).map .double
  | dateTime => (Time.parse? literal.toList).map .date
  | text => some (.text literal)

end ScalarClass

/-- The class of a type; values of other types cannot be queried. -/
def DeclaredType.class? : DeclaredType → Option ScalarClass
  | int8 | int16 | int32 | int64 | uint8 | uint16 | uint32 | uint64 => some .integer
  | float32 | float64 | decimal => some .float
  | dateTime => some .dateTime
  | string | identifier => some .text
  | bool | object | collection => none

end ResourceQuery
