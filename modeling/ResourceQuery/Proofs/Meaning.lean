import ResourceQuery.Proofs.Compiling

namespace ResourceQuery

/-- What holds of one document: for each kind of question about a field, its answer. -/
structure Interpretation where
  equals : String → Json → Bool
  greater : String → Json → Bool
  greaterOrEqual : String → Json → Bool
  less : String → Json → Bool
  lessOrEqual : String → Json → Bool
  oneOf : String → List String → Bool
  resembles : String → String → Bool

def Interpretation.compares (I : Interpretation) : Comparison → String → Json → Bool
  | .eq => I.equals
  | .gt => I.greater
  | .ge => I.greaterOrEqual
  | .lt => I.less
  | .le => I.lessOrEqual

mutual

/-- Whether a filter holds; a filter without a meaning for documents has no answer. -/
def Filter.truth? (I : Interpretation) : Filter → Option Bool
  | .comparison op (.field [a]) (.literal literal) =>
    (a.literalValue? literal).map fun v => I.compares op (a.targetField [literal]) v.toJson
  | .comparison .. => none
  | .matchText [a] text => some (I.resembles (a.targetField [text]) text)
  | .matchText .. => none
  | .equalsAnyOf [a] values => some (I.oneOf (a.targetField values) values)
  | .equalsAnyOf .. => none
  | .logical .and terms => (Filter.truths? I terms).map fun bs => bs.all id
  | .logical .or terms => (Filter.truths? I terms).map fun bs => bs.any id
  | .not term => (term.truth? I).map Bool.not
  | .fieldPath _ => none
  | .collectionNotEmpty _ => none

def Filter.truths? (I : Interpretation) : List Filter → Option (List Bool)
  | [] => some []
  | f :: fs => do return (← f.truth? I) :: (← Filter.truths? I fs)

end

namespace Json

def text? : Json → Option String
  | .string s => some s
  | _ => none

end Json

namespace Interpretation

/-- `term`: a field and the value it has. -/
def term? (I : Interpretation) : Json → Option Bool
  | .object [(field, body)] => (body.member? "value").map (I.equals field)
  | _ => none

/-- The relation that a bound of a range stands for. -/
def bound? (I : Interpretation) (key : String) : Option (String → Json → Bool) :=
  [("gt", I.greater), ("gte", I.greaterOrEqual), ("lt", I.less), ("lte", I.lessOrEqual)].lookup key

/-- `range`: a field and its bounds, which hold all of them. -/
def range? (I : Interpretation) : Json → Option Bool
  | .object [(field, .object bounds)] => do
    let answers ← bounds.mapM fun (key, v) => do return (← I.bound? key) field v
    return answers.all id
  | _ => none

/-- `terms`: a field and the texts of which it has one. -/
def terms? (I : Interpretation) : Json → Option Bool
  | .object [(field, .array items)] => (items.mapM Json.text?).map (I.oneOf field)
  | _ => none

/-- `match`: a field and the text that it resembles. -/
def match? (I : Interpretation) : Json → Option Bool
  | .object [(field, body)] => do
    let text ← (← body.member? "query").text?
    let fuzziness ← (← body.member? "fuzziness").text?
    if fuzziness = "AUTO" then some (I.resembles field text) else none
  | _ => none

/-- How many of the `should` clauses of a `bool` have to hold: as many as it says, else one unless
it has `must` clauses. -/
def leastMatching (parts : List (String × Json)) : Nat :=
  match parts.lookup "minimum_should_match" with
  | some (.number (.integer n)) => n.toNat
  | _ => if (parts.lookup "must").isNone && (parts.lookup "should").isSome then 1 else 0

mutual

/-- Whether a query holds, by the rules of the engine; what is no query has no answer. -/
def query? (I : Interpretation) : Json → Option Bool
  | .object [(kind, body)] =>
    if kind = "term" then I.term? body
    else if kind = "range" then I.range? body
    else if kind = "terms" then I.terms? body
    else if kind = "match" then I.match? body
    else if kind = "bool" then I.bool? body
    else none
  | _ => none

/-- `bool`: all of the `must` clauses hold, and enough of the `should` clauses. -/
def bool? (I : Interpretation) : Json → Option Bool
  | .object parts => do
    let must ← I.clausesUnder? "must" parts
    let should ← I.clausesUnder? "should" parts
    return must.all id && decide (leastMatching parts ≤ should.count true)
  | _ => none

def clausesUnder? (I : Interpretation) (key : String) :
    List (String × Json) → Option (List Bool)
  | [] => some []
  | (name, v) :: parts => if name = key then I.clauses? v else I.clausesUnder? key parts

def clauses? (I : Interpretation) : Json → Option (List Bool)
  | .array items => I.queries? items
  | _ => none

def queries? (I : Interpretation) : List Json → Option (List Bool)
  | [] => some []
  | v :: vs => do return (← I.query? v) :: (← I.queries? vs)

end

end Interpretation

section

variable (I : Interpretation)

theorem text_of_strings (ss : List String) : ss.mapM (Json.text? ∘ Json.string) = some ss := by
  induction ss with
  | nil => rfl
  | cons s ss ih => simp [Json.text?, ih]

theorem query_constraint (k : Constraint) :
    I.query? k.clause.toJson = some (I.compares k.op k.field k.value.toJson) := by
  obtain ⟨field, expected, op, value⟩ := k
  cases op <;>
    simp [Constraint.clause, Clause.toJson, Json.single, Interpretation.query?,
      Interpretation.term?, Interpretation.range?, Interpretation.bound?, Json.member?, Bound.key,
      Interpretation.compares, List.lookup_cons]

theorem query_terms (field : String) (values : List String) :
    I.query? (Clause.terms field values).toJson = some (I.oneOf field values) := by
  simp [Clause.toJson, Json.single, Json.strings, Interpretation.query?, Interpretation.terms?,
    text_of_strings]

theorem query_fuzzy (field text : String) :
    I.query? (Clause.fuzzy field text).toJson = some (I.resembles field text) := by
  simp [Clause.toJson, Json.single, Interpretation.query?, Interpretation.match?, Json.member?,
    Json.text?, List.lookup_cons]

theorem mem_true_eq_any (bs : List Bool) : decide (true ∈ bs) = bs.any id := by
  rw [Bool.eq_iff_iff, decide_eq_true_iff, List.any_eq_true]
  simp

/-- A conjunction asks for all its clauses, a disjunction for one of them. -/
theorem query_join {op : Connective} {cs : List Clause} {bs : List Bool}
    (h : I.queries? (Clause.listToJson cs) = some bs) :
    I.query? (op.join cs).toJson =
      some (match op with | .and => bs.all id | .or => bs.any id) := by
  cases op with
  | and =>
    simp [Connective.join, Clause.toJson, Json.single, Interpretation.query?, Interpretation.bool?,
      Interpretation.clausesUnder?, Interpretation.clauses?, h, Interpretation.leastMatching,
      List.lookup_cons]
  | or =>
    simp [Connective.join, Clause.toJson, Json.single, Json.nat, Interpretation.query?,
      Interpretation.bool?, Interpretation.clausesUnder?, Interpretation.clauses?, h,
      Interpretation.leastMatching, mem_true_eq_any]

/-- Filter and clause have the same answer. -/
def SameAnswer (f : Filter) (c : Clause) : Prop :=
  ∃ b, f.truth? I = some b ∧ I.query? c.toJson = some b

theorem same_answers {terms : List Filter} {cs : List Clause}
    (h : List.Forall₂ (SameAnswer I) terms cs) :
    ∃ bs, Filter.truths? I terms = some bs ∧ I.queries? (Clause.listToJson cs) = some bs ∧
      bs.length = cs.length := by
  induction h with
  | nil => exact ⟨[], rfl, rfl, rfl⟩
  | cons hb _ ih =>
    obtain ⟨b, hf, hc⟩ := hb
    obtain ⟨bs, hfs, hcs, hlen⟩ := ih
    refine ⟨b :: bs, ?_, ?_, by simp [hlen]⟩
    · simp [Filter.truths?, hf, hfs]
    · simp [Clause.listToJson, Interpretation.queries?, hc, hcs]

theorem logical_truth {op : Connective} {terms : List Filter} {bs : List Bool}
    (h : Filter.truths? I terms = some bs) :
    (Filter.logical op terms).truth? I =
      some (match op with | .and => bs.all id | .or => bs.any id) := by
  cases op <;> simp [Filter.truth?, h]

/-- On every document, a filter that compiles has an answer, and the JSON form of its query has
the same. -/
theorem compile_keeps_meaning (f : Filter) (c : Clause) (h : f.compile = .ok c) :
    ∃ b, f.truth? I = some b ∧ I.query? c.toJson = some b := by
  induction f generalizing c with
  | comparison op left right =>
    obtain ⟨a, literal, expected, value, rfl, rfl, hc, hv, -, rfl⟩ :=
      compile_comparison_ok_iff.mp h
    refine ⟨_, ?_, query_constraint I _⟩
    simp [Filter.truth?, Attribute.literalValue?, hc, hv]
  | matchText field text =>
    obtain ⟨a, rfl, rfl⟩ := compile_matchText_ok_iff.mp h
    exact ⟨_, by rw [Filter.truth?], query_fuzzy I _ _⟩
  | equalsAnyOf field values =>
    obtain ⟨a, rfl, rfl⟩ := compile_equalsAnyOf_ok_iff.mp h
    exact ⟨_, by rw [Filter.truth?], query_terms I _ _⟩
  | logical op terms ih =>
    obtain ⟨cs, hcs, hjoin⟩ := compile_logical_ok_iff.mp h
    have hsame : List.Forall₂ (SameAnswer I) terms cs := forall₂_of_mem hcs ih
    obtain ⟨bs, hts, hqs, hlen⟩ := same_answers I hsame
    rcases hjoin with rfl | ⟨-, rfl⟩
    · -- a group of one term is that term, whatever joins it
      obtain ⟨b, rfl⟩ := List.length_eq_one_iff.mp hlen
      refine ⟨b, ?_, ?_⟩
      · rw [logical_truth I hts]
        cases op <;> simp
      · cases hq : I.query? c.toJson with
        | none => simp [Clause.listToJson, Interpretation.queries?, hq] at hqs
        | some q => simpa [Clause.listToJson, Interpretation.queries?, hq] using hqs
    · exact ⟨_, logical_truth I hts, query_join I hqs⟩
  | not term ih => simp [Filter.compile] at h
  | fieldPath path => simp [Filter.compile] at h
  | collectionNotEmpty path => simp [Filter.compile] at h

end

/-- Adults of one name, and whoever has one of two keys. -/
def namedAdultOrKey : Filter :=
  .logical .or
    [.logical .and
      [.comparison .gt (.field [⟨"Age", .int32⟩]) (.literal " 18"),
       .comparison .eq (.field [⟨"Name", .string⟩]) (.literal "Alice")],
     .logical .and [.equalsAnyOf [⟨"Key", .identifier⟩] ["7", "8"]]]

def namedAdultOrKeyQuery : Clause :=
  .any
    [.all [.range "age" .gt (.long 18), .term "name" (.text "Alice")],
     .terms "databaseId" ["7", "8"]]

/-- A document with one of the keys that is no adult. -/
def keyed : Interpretation where
  equals field _ := field == "name"
  greater _ _ := false
  greaterOrEqual _ _ := false
  less _ _ := true
  lessOrEqual _ _ := true
  oneOf field values := field == "databaseId" && values.contains "8"
  resembles _ _ := false

theorem namedAdultOrKey_keeps_meaning :
    namedAdultOrKey.compile = .ok namedAdultOrKeyQuery ∧
      ∃ b, namedAdultOrKey.truth? keyed = some b ∧
        keyed.query? namedAdultOrKeyQuery.toJson = some b :=
  ⟨rfl, compile_keeps_meaning keyed namedAdultOrKey namedAdultOrKeyQuery rfl⟩

end ResourceQuery
