import ResourceQuery.Json.Printer
import ResourceQuery.Time.Instant

namespace ResourceQuery

inductive Scalar where
  | long (n : Int)
  | double (x : Number.Binary64)
  | date (t : Time.Instant)
  | text (s : String)
  deriving DecidableEq, Repr

def Scalar.toJson : Scalar → Json
  | long n => .number (.integer n)
  | double x => if x.isFinite then .number (.real x) else .null
  | date t => .string t.print
  | text s => .string s

inductive Bound where
  | gt
  | gte
  | lt
  | lte
  deriving DecidableEq, Repr

def Bound.key : Bound → String
  | gt => "gt"
  | gte => "gte"
  | lt => "lt"
  | lte => "lte"

inductive Clause where
  /-- The field has exactly this value. -/
  | term (field : String) (value : Scalar)
  /-- The field has one of these values. -/
  | terms (field : String) (values : List String)
  | range (field : String) (bound : Bound) (value : Scalar)
  /-- The field resembles the text. -/
  | fuzzy (field : String) (text : String)
  | all (clauses : List Clause)
  | any (clauses : List Clause)
  deriving Repr

/-- The field of a leaf. -/
def Clause.field? : Clause → Option String
  | .term field _ | .terms field _ | .range field _ _ | .fuzzy field _ => some field
  | .all _ | .any _ => none

mutual

def Clause.toJson : Clause → Json
  | .term field value => .single "term" (.single field (.single "value" value.toJson))
  | .terms field values => .single "terms" (.single field (Json.strings values))
  | .range field bound value => .single "range" (.single field (.single bound.key value.toJson))
  | .fuzzy field text =>
    .single "match" (.single field (.object [("fuzziness", .string "AUTO"), ("query", .string text)]))
  | .all clauses => .single "bool" (.single "must" (.array (Clause.listToJson clauses)))
  | .any clauses =>
    .single "bool"
      (.object [("minimum_should_match", Json.nat 1), ("should", .array (Clause.listToJson clauses))])

def Clause.listToJson : List Clause → List Json
  | [] => []
  | c :: cs => c.toJson :: Clause.listToJson cs

end

end ResourceQuery
