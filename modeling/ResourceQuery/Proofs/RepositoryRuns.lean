import ResourceQuery.Proofs.Results
import ResourceQuery.Repository

namespace ResourceQuery

namespace Repository

/-- The compiled query of an operation that reads. -/
def compiled? (r : Repository) : Operation → Option (Except CompileError Request)
  | .get layer => some ((r.options.translate r.index layer).map .search)
  | .count filter => some ((countRequest r.index filter).map .count)
  | .write _ => none

/-- What an operation asks of the engine: its query, if that compiles. -/
def request? (r : Repository) (op : Operation) : Option Request :=
  (r.compiled? op).bind Except.toOption

end Repository

/-- The transport answers the request with an error. -/
def Transport.Fails (t : Transport) (before : List Request) (e : TransportError) : Request → Prop
  | .search request => t.search before request = .error e
  | .count request => t.count before request = .error e

/-- The result that an operation has to have, when `before` has been sent in front of it. -/
structure Repository.Answers (r : Repository) (t : Transport) (before : List Request)
    (op : Operation) (result : Except RepositoryError Answer) : Prop where
  write : ∀ w, result = .error (.unsupportedWrite w) ↔ op = .write w
  translate : ∀ e, result = .error (.translate e) ↔ r.compiled? op = some (.error e)
  isTranslation : (∃ e, result = .error e ∧ e.isTranslation) ↔
    ∃ e, r.compiled? op = some (.error e)
  transport : ∀ e, result = .error (.transport e) ↔
    ∃ request, r.compiled? op = some (.ok request) ∧ t.Fails before e request
  documents : ∀ ds, result = .ok (.documents ds) ↔
    ∃ request response, r.compiled? op = some (.ok (.search request)) ∧
      t.search before request = .ok response ∧ response.hits.map Hit.source = ds
  count : ∀ n, result = .ok (.count n) ↔
    ∃ request response, r.compiled? op = some (.ok (.count request)) ∧
      t.count before request = .ok response ∧ min response.count (2 ^ 31 - 1) = n

namespace Repository

variable (r : Repository) (t : Transport)

theorem perform_sent (before : List Request) (op : Operation) :
    (r.perform t before op).sent = (r.request? op).toList := by
  cases op with
  | get layer =>
    simp only [perform, get, request?, compiled?]
    cases r.options.translate r.index layer <;> rfl
  | count filter =>
    simp only [perform, count, request?, compiled?]
    cases countRequest r.index filter <;> rfl
  | write op => rfl

variable {r t} {before : List Request} {op : Operation}

theorem ne_write_of_compiled {x : Except CompileError Request} (h : r.compiled? op = some x)
    (w : WriteOperation) : op ≠ .write w := by
  intro hw
  subst hw
  cases h

theorem answers_untranslatable {e : CompileError} (h : r.compiled? op = some (.error e)) :
    r.Answers t before op (.error (.translate e)) := by
  have hw := ne_write_of_compiled h
  constructor <;> simp [h, hw, RepositoryError.isTranslation]

theorem answers_failed {request : Request} {e : TransportError}
    (h : r.compiled? op = some (.ok request)) (hs : t.Fails before e request) :
    r.Answers t before op (.error (.transport e)) := by
  have hw := ne_write_of_compiled h
  cases request with
  | search request =>
    have hs : t.search before request = .error e := hs
    constructor <;> simp [h, hw, hs, Transport.Fails, RepositoryError.isTranslation]
  | count request =>
    have hs : t.count before request = .error e := hs
    constructor <;> simp [h, hw, hs, Transport.Fails, RepositoryError.isTranslation]

theorem answers_documents {request : SearchRequest} {response : SearchResponse}
    (h : r.compiled? op = some (.ok (.search request)))
    (hs : t.search before request = .ok response) :
    r.Answers t before op (.ok (.documents response.documents)) := by
  have hw := ne_write_of_compiled h
  constructor <;> simp [h, hw, hs, Transport.Fails, SearchResponse.documents]

theorem answers_count {request : CountRequest} {response : CountResponse}
    (h : r.compiled? op = some (.ok (.count request)))
    (hs : t.count before request = .ok response) :
    r.Answers t before op (.ok (.count response.clamped)) := by
  have hw := ne_write_of_compiled h
  constructor <;> simp [h, hw, hs, Transport.Fails, CountResponse.clamped, maxCount]

theorem answers_write (w : WriteOperation) :
    r.Answers t before (.write w) (.error (.unsupportedWrite w)) := by
  constructor <;> simp [compiled?, RepositoryError.isTranslation]

variable (r t)

theorem get_answers (before : List Request) (layer : Layer) :
    r.Answers t before (.get layer) (r.get t before layer).result := by
  unfold get
  split
  next e hc => exact answers_untranslatable (by rw [compiled?, hc]; rfl)
  next request hc =>
    have hcompiled : r.compiled? (.get layer) = some (.ok (.search request)) := by
      rw [compiled?, hc]
      rfl
    cases hs : t.search before request with
    | error e => exact answers_failed hcompiled hs
    | ok response => exact answers_documents hcompiled hs

theorem count_answers (before : List Request) (filter : Option Filter) :
    r.Answers t before (.count filter) (r.count t before filter).result := by
  unfold count
  split
  next e hc => exact answers_untranslatable (by rw [compiled?, hc]; rfl)
  next request hc =>
    have hcompiled : r.compiled? (.count filter) = some (.ok (.count request)) := by
      rw [compiled?, hc]
      rfl
    cases hs : t.count before request with
    | error e => exact answers_failed hcompiled hs
    | ok response => exact answers_count hcompiled hs

theorem perform_answers (before : List Request) (op : Operation) :
    r.Answers t before op (r.perform t before op).result := by
  cases op with
  | get layer => exact r.get_answers t before layer
  | count filter => exact r.count_answers t before filter
  | write w => exact answers_write w

theorem run_length (before : List Request) (ops : List Operation) :
    (r.run t before ops).length = ops.length := by
  induction ops generalizing before with
  | nil => rfl
  | cons op ops ih => simp [run, ih]

/-- What a run sends does not depend on the transport. -/
theorem run_sent (before : List Request) (ops : List Operation) :
    (r.run t before ops).flatMap Outcome.sent = ops.filterMap r.request? := by
  induction ops generalizing before with
  | nil => rfl
  | cons op ops ih =>
    rw [run, List.flatMap_cons, ih, perform_sent, List.filterMap_cons]
    cases r.request? op <;> rfl

/-- A run goes on with what its first part has sent, and with nothing else of it. -/
theorem run_append (before : List Request) (ops more : List Operation) :
    r.run t before (ops ++ more) =
      r.run t before ops ++ r.run t (before ++ ops.filterMap r.request?) more := by
  induction ops generalizing before with
  | nil => simp [run]
  | cons op ops ih =>
    have hsent : (r.perform t before op).sent ++ ops.filterMap r.request? =
        (op :: ops).filterMap r.request? := by
      rw [perform_sent, List.filterMap_cons]
      cases r.request? op <;> rfl
    rw [List.cons_append, run, run, ih, List.cons_append, List.append_assoc, hsent]

theorem run_getElem (before : List Operation) (op : Operation) (after : List Operation) :
    (r.run t [] (before ++ op :: after))[before.length]? =
      some (r.perform t (before.filterMap r.request?) op) := by
  have hlen := r.run_length t [] before
  rw [run_append, ← hlen, List.getElem?_append_right (Nat.le_refl _), Nat.sub_self, run,
    List.nil_append]
  rfl

end Repository

theorem WriteOperation.name_inj (v w : WriteOperation) : v.name = w.name ↔ v = w := by
  constructor
  · intro h
    cases v <;> cases w <;> first | rfl | exact absurd h (by decide)
  · intro h
    rw [h]

/-- The transport receives the compiled queries of a run in their order and nothing else; and each
operation of it sends its own, and has the result that its query and the answer to it call for. No
two write operations are refused under one name. -/
theorem repository_run (r : Repository) (t : Transport) :
    (∀ ops, (r.run t [] ops).length = ops.length ∧
      (r.run t [] ops).flatMap Outcome.sent = ops.filterMap r.request?) ∧
    (∀ before op after, ∃ outcome,
      (r.run t [] (before ++ op :: after))[before.length]? = some outcome ∧
        outcome.sent = (r.request? op).toList ∧
        r.Answers t (before.filterMap r.request?) op outcome.result) ∧
    ∀ v w : WriteOperation, v.name = w.name ↔ v = w := by
  refine ⟨fun ops => ⟨r.run_length t [] ops, r.run_sent t [] ops⟩, ?_, WriteOperation.name_inj⟩
  intro before op after
  refine ⟨_, r.run_getElem t before op after, ?_, ?_⟩
  · exact r.perform_sent t _ op
  · exact r.perform_answers t _ op

end ResourceQuery
