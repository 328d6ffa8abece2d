import ResourceQuery.Compile.Request
import ResourceQuery.Engine.Response

namespace ResourceQuery

inductive TransportError where
  | unavailable (reason : String)
  | rejected (status : Nat) (reason : String)
  | undecodable (reason : String)
  deriving DecidableEq, Repr

def TransportError.message : TransportError → String
  | unavailable reason => "Search engine unreachable: " ++ reason
  | rejected status reason =>
    "Search engine rejected request (" ++ Number.printNat status ++ "): " ++ reason
  | undecodable reason => "Malformed search engine response: " ++ reason

inductive Request where
  | search (r : SearchRequest)
  | count (r : CountRequest)
  deriving Repr

/-- Answers a request, perhaps in view of what was sent before it. -/
structure Transport where
  search : List Request → SearchRequest → Except TransportError SearchResponse
  count : List Request → CountRequest → Except TransportError CountResponse

inductive WriteOperation where
  | getForCreate
  | create
  | getForUpdate
  | update
  | delete
  | setRelationship
  | addToToManyRelationship
  | removeFromToManyRelationship
  deriving DecidableEq, Repr

namespace WriteOperation

def all : List WriteOperation :=
  [getForCreate, create, getForUpdate, update, delete, setRelationship, addToToManyRelationship,
   removeFromToManyRelationship]

def name : WriteOperation → String
  | getForCreate => "get_for_create"
  | create => "create"
  | getForUpdate => "get_for_update"
  | update => "update"
  | delete => "delete"
  | setRelationship => "set_relationship"
  | addToToManyRelationship => "add_to_to_many_relationship"
  | removeFromToManyRelationship => "remove_from_to_many_relationship"

end WriteOperation

inductive RepositoryError where
  | translate (e : CompileError)
  | unsupportedWrite (op : WriteOperation)
  | transport (e : TransportError)
  deriving DecidableEq, Repr

namespace RepositoryError

/-- The query itself cannot be expressed; sending it again will not help. -/
def isTranslation : RepositoryError → Bool
  | translate _ => true
  | _ => false

def message : RepositoryError → String
  | translate e => e.message
  | unsupportedWrite op =>
    "Operation '" ++ op.name ++ "' is not supported by a search index repository"
  | transport e => "Transport error: " ++ e.message

end RepositoryError

inductive Operation where
  /-- The documents of a layer, in its order, within its page. -/
  | get (layer : Layer)
  | count (filter : Option Filter)
  | write (op : WriteOperation)
  deriving Repr

inductive Answer where
  | documents (ds : List Json)
  | count (n : Nat)
  deriving Repr

/-- What came of an operation, and what was sent for it. -/
structure Outcome where
  result : Except RepositoryError Answer
  sent : List Request

/-- Reads a search index and refuses to write: the index is kept by others. -/
structure Repository where
  index : String
  options : Options
  deriving Repr

namespace Repository

def get (r : Repository) (t : Transport) (before : List Request) (layer : Layer) : Outcome :=
  match r.options.translate r.index layer with
  | .error e => ⟨.error (.translate e), []⟩
  | .ok request =>
    ⟨match t.search before request with
      | .error e => .error (.transport e)
      | .ok response => .ok (.documents response.documents),
     [.search request]⟩

def count (r : Repository) (t : Transport) (before : List Request) (filter : Option Filter) : Outcome :=
  match countRequest r.index filter with
  | .error e => ⟨.error (.translate e), []⟩
  | .ok request =>
    ⟨match t.count before request with
      | .error e => .error (.transport e)
      | .ok response => .ok (.count response.clamped),
     [.count request]⟩

def perform (r : Repository) (t : Transport) (before : List Request) : Operation → Outcome
  | .get layer => r.get t before layer
  | .count filter => r.count t before filter
  | .write op => ⟨.error (.unsupportedWrite op), []⟩

/-- One operation after another. -/
def run (r : Repository) (t : Transport) (before : List Request) : List Operation → List Outcome
  | [] => []
  | op :: ops =>
    let outcome := r.perform t before op
    outcome :: r.run t (before ++ outcome.sent) ops

end Repository

end ResourceQuery
