import ResourceQuery.Compile.Request

namespace ResourceQuery.Log

inductive Level where
  | error
  | warn
  | info
  | debug
  | trace
  deriving DecidableEq, Repr

namespace Level

def name : Level → String
  | error => "ERROR"
  | warn => "WARN"
  | info => "INFO"
  | debug => "DEBUG"
  | trace => "TRACE"

/-- Greater levels say more. -/
def rank : Level → Nat
  | error => 1
  | warn => 2
  | info => 3
  | debug => 4
  | trace => 5

end Level

inductive Value where
  /-- Written between quotes. -/
  | quoted (s : String)
  /-- Written as it is. -/
  | shown (s : String)
  | bool (b : Bool)
  | nat (n : Nat)
  deriving DecidableEq, Repr

structure Event where
  level : Level
  target : String
  message : String
  fields : List (String × Value)
  deriving DecidableEq, Repr

def Value.toJson : Value → Json
  | quoted s | shown s => .string s
  | bool b => .bool b
  | nat n => Json.nat n

def Value.print : Value → String
  | quoted s => Text.quoted s
  | shown s => s
  | bool b => if b then "true" else "false"
  | nat n => Number.printNat n

def Event.toJson (e : Event) : Json :=
  .object [("level", .string e.level.name),
    ("fields", .object (("message", .string e.message) :: e.fields.map fun (k, v) => (k, v.toJson))),
    ("target", .string e.target)]

/-- Level, target, message and fields on a line. -/
def Event.print (e : Event) : String :=
  e.level.name ++ " " ++ e.target ++ ": " ++
    Text.joinWith " " (e.message :: e.fields.map fun (k, v) => k ++ "=" ++ v.print)

/-- The line of an event in a log file. Names of levels stand to the right of five characters. -/
def Event.line (now : Time.Instant) (e : Event) : String :=
  now.stamp ++ " " ++ (if e.level.name.length < 5 then " " else "") ++ e.print ++ "\n"

def constraintsTarget : String := "resq_ir::elastic::constraints"
def translatorTarget : String := "resq_ir::elastic::translator"

def className : ScalarClass → String
  | .integer => "Integer"
  | .float => "Float"
  | .dateTime => "DateTime"
  | .text => "Text"

def optionalNat : Option Nat → String
  | some n => "Some(" ++ Number.printNat n ++ ")"
  | none => "None"

def ofConstraint (c : Constraint) : Event :=
  ⟨.trace, constraintsTarget, "compiled comparison",
    [("field", .shown c.field), ("class", .shown (className c.expected)), ("op", .shown c.op.name)]⟩

mutual

/-- One event for each comparison that compiles, up to the first term that does not. -/
def ofFilter : Filter → List Event
  | .comparison op left right =>
    match constraint op left right with
    | .ok c => [ofConstraint c]
    | .error _ => []
  | .logical _ terms => ofTerms terms
  | _ => []

def ofTerms : List Filter → List Event
  | [] => []
  | f :: fs =>
    match f.compile with
    | .ok _ => ofFilter f ++ ofTerms fs
    | .error _ => ofFilter f

end

def ofFilter? (filter : Option Filter) : List Event :=
  (filter.map ofFilter).getD []

def ofCount (index : String) (filter : Option Filter) : List Event :=
  ofFilter? filter ++
    match countRequest index filter with
    | .ok r =>
      [⟨.debug, translatorTarget, "compiled count request",
        [("index", .quoted index), ("filtered", .bool r.query.isSome)]⟩]
    | .error _ => []

def ofSuppression (o : Options) (index : String) (filter : Option Filter)
    (sort : Option (List SortKey)) : List Event :=
  match compileFilter filter, sort with
  | .ok _, some keys =>
    if o.suppresses keys then
      [⟨.debug, translatorTarget, "identifier-only ascending sort left to engine order",
        [("index", .quoted index)]⟩]
    else []
  | _, _ => []

def ofSearch (o : Options) (index : String) (l : Layer) : List Event :=
  ofFilter? l.filter ++ ofSuppression o index l.filter l.sort ++
    match o.translate index l with
    | .ok r =>
      [⟨.debug, translatorTarget, "compiled search request",
        [("index", .quoted index), ("filtered", .bool r.query.isSome),
          ("sort_keys", .nat r.sort.length), ("from", .shown (optionalNat r.start)),
          ("size", .shown (optionalNat r.size))]⟩]
    | .error _ => []

end ResourceQuery.Log
