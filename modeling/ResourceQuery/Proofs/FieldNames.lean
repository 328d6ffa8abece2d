import ResourceQuery.Proofs.FieldRouting
import ResourceQuery.Proofs.SortOrders

namespace ResourceQuery

/-- One ASCII letter in its two cases, which are 32 code points apart. -/
def CasesOfLetter (c d : Char) : Prop :=
  c.isUpper ∧ d.toNat = c.toNat + 32 ∨ d.isUpper ∧ c.toNat = d.toNat + 32

/-- The names start with one ASCII letter in its two cases and go on alike. -/
def DifferInLeadingCase (a b : String) : Prop :=
  ∃ c d rest, a.toList = c :: rest ∧ b.toList = d :: rest ∧ CasesOfLetter c d

/-- A condition on the attribute, whether it compiles or not. -/
inductive Filter.On (a : Attribute) : Filter → Prop where
  | comparison (op : Comparison) (right : Operand) : On a (.comparison op (.field [a]) right)
  | matchText (text : String) : On a (.matchText [a] text)
  | equalsAnyOf (values : List String) : On a (.equalsAnyOf [a] values)

/-- The attribute is compiled to the field: somewhere in a filter, in the leaf that a condition on
the attribute becomes, or in a sort, in the clause of a key. -/
inductive Attribute.CompiledTo (a : Attribute) (field : String) : Prop where
  | condition {f g : Filter} {c leaf : Clause} (h : f.compile = .ok c)
      (hplace : (g, leaf) ∈ f.stops.zip c.leaves) (hon : g.On a)
      (hfield : leaf.field? = some field)
  | key {keys : List SortKey} {clauses : List SortClause} {k : SortKey} {s : SortClause}
      (h : compileSort keys = .ok clauses) (hplace : (k, s) ∈ keys.zip clauses)
      (hpath : k.path = [a]) (hfield : s.field = field)

theorem isUpper_iff {c : Char} : c.isUpper ↔ 65 ≤ c.toNat ∧ c.toNat ≤ 90 := by
  simp [Char.isUpper, UInt32.le_iff_toNat_le]

theorem toNat_toLower (c : Char) :
    c.toLower.toNat = if c.isUpper then c.toNat + 32 else c.toNat := by
  split
  next h =>
    have hvalid : (c.toNat + 32).isValidChar := by
      have hrange := isUpper_iff.mp h
      exact .inl (by omega)
    rw [Char.toLower_eq_of_isUpper h, Char.toNat_ofNat, if_pos hvalid]
  next h => rw [Char.toLower_eq_of_not_isUpper h]

theorem toLower_eq_iff {c d : Char} : c.toLower = d.toLower ↔ c = d ∨ CasesOfLetter c d := by
  rw [← Char.toNat_inj, ← @Char.toNat_inj c d, toNat_toLower, toNat_toLower, CasesOfLetter]
  simp only [isUpper_iff]
  split <;> split <;> omega

/-- ASCII letters take one byte, in either case. -/
theorem utf8Size_toLower (c : Char) : c.toLower.utf8Size = c.utf8Size := by
  by_cases h : c.isUpper
  · have hsmall (d : Char) (hd : d.toNat ≤ 127) : d.utf8Size = 1 :=
      Char.utf8Size_eq_one_iff.mpr (UInt32.le_iff_toNat_le.mpr hd)
    have hrange := isUpper_iff.mp h
    have hlower := toNat_toLower c
    rw [if_pos h] at hlower
    rw [hsmall c (by omega), hsmall c.toLower (by omega)]
  · rw [Char.toLower_eq_of_not_isUpper h]

theorem normalizeName_eq_iff {a b : String} :
    normalizeName a = normalizeName b ↔ a = b ∨ DifferInLeadingCase a b := by
  rw [← String.toList_inj, ← @String.toList_inj a b, toList_normalizeName, toList_normalizeName,
    DifferInLeadingCase]
  cases a.toList with
  | nil => cases b.toList <;> simp
  | cons c cs =>
    cases b.toList with
    | nil => simp
    | cons d ds =>
      simp only [List.modifyHead_cons, List.cons.injEq, toLower_eq_iff]
      constructor
      · intro h
        obtain ⟨hfirst, rfl⟩ := h
        rcases hfirst with rfl | hcases
        · exact .inl ⟨rfl, rfl⟩
        · exact .inr ⟨c, d, cs, ⟨rfl, rfl⟩, ⟨rfl, rfl⟩, hcases⟩
      · intro h
        rcases h with ⟨rfl, rfl⟩ | ⟨_, _, _, ⟨rfl, rfl⟩, ⟨rfl, rfl⟩, hcases⟩
        · exact ⟨.inl rfl, rfl⟩
        · exact ⟨.inr hcases, rfl⟩

theorem normalizeName_idempotent (name : String) :
    normalizeName (normalizeName name) = normalizeName name := by
  have htwice : Char.toLower ∘ Char.toLower = Char.toLower :=
    funext Char.toLower_toLower_eq_toLower
  rw [← String.toList_inj, toList_normalizeName, toList_normalizeName, List.modifyHead_modifyHead,
    htwice]

theorem utf8ByteSize_normalizeName (name : String) :
    (normalizeName name).utf8ByteSize = name.utf8ByteSize := by
  have hbytes (s : String) : s.utf8ByteSize = String.utf8Len s.toList := by
    rw [← String.utf8ByteSize_ofList, String.ofList_toList]
  rw [hbytes, hbytes, toList_normalizeName]
  cases name.toList with
  | nil => rfl
  | cons c cs =>
    rw [List.modifyHead_cons, String.utf8Len_cons, String.utf8Len_cons, utf8Size_toLower]

theorem field_of_condition {a : Attribute} (ha : ¬ a.Identifies) {g : Filter} {leaf : Clause}
    (hon : g.On a) (h : g.compile = .ok leaf) : leaf.field? = some (normalizeName a.name) := by
  cases hon with
  | comparison op right =>
    obtain ⟨b, literal, expected, value, hleft, rfl, -, -, -, -⟩ := compile_comparison_ok_iff.mp h
    rw [comparison_field h, targetField_of_other ha]
  | matchText text =>
    obtain ⟨b, hpath, rfl⟩ := compile_matchText_ok_iff.mp h
    cases hpath
    rw [Clause.field?, targetField_of_other ha]
  | equalsAnyOf values =>
    obtain ⟨b, hpath, rfl⟩ := compile_equalsAnyOf_ok_iff.mp h
    cases hpath
    rw [Clause.field?, targetField_of_other ha]

/-- Wherever an attribute stands, and whatever it is compared with, its field is its normal name. -/
theorem compiledTo_iff {a : Attribute} (ha : ¬ a.Identifies) {field : String} :
    a.CompiledTo field ↔ normalizeName a.name = field := by
  constructor
  · intro h
    cases h with
    | condition h hplace hon hfield =>
      -- groups of one term do not move the leaves: each stands in the place of its own condition
      have hleaf := (forall₂_zip_iff.mp (mirrors_of_compile h).2).2 _ hplace
      rw [field_of_condition ha hon hleaf] at hfield
      exact Option.some.inj hfield
    | @key _ _ k s h hplace hpath hfield =>
      have hkey : k.compile = .ok s := (forall₂_zip_iff.mp (mapM_ok_iff.mp h)).2 _ hplace
      obtain ⟨b, hb, -, rfl⟩ := SortKey.compile_ok_iff.mp hkey
      rw [hpath] at hb
      cases hb
      exact hfield
  · intro h
    subst h
    have hcompile : (Filter.matchText [a] "").compile =
        .ok (.fuzzy (normalizeName a.name) "") := by
      rw [compile_matchText_ok_iff, ← targetField_of_other ha [""]]
      exact ⟨a, rfl, rfl⟩
    exact .condition hcompile (List.mem_singleton_self _) (.matchText "") rfl

/-- Two names have one normal form if they are equal up to the case of a first ASCII letter, and not
otherwise. A normal form is its own, and as long as the name in bytes. Two attributes other than the
identifier can be compiled to one field if their names are equal up to that letter, and not
otherwise. -/
theorem collide_in_leading_case_only :
    (∀ a b, normalizeName a = normalizeName b ↔ a = b ∨ DifferInLeadingCase a b) ∧
      (∀ name, normalizeName (normalizeName name) = normalizeName name) ∧
      (∀ name, (normalizeName name).utf8ByteSize = name.utf8ByteSize) ∧
      ∀ a b : Attribute, ¬ a.Identifies → ¬ b.Identifies →
        ((∃ field, a.CompiledTo field ∧ b.CompiledTo field) ↔
          a.name = b.name ∨ DifferInLeadingCase a.name b.name) := by
  refine ⟨fun _ _ => normalizeName_eq_iff, normalizeName_idempotent, utf8ByteSize_normalizeName, ?_⟩
  intro a b ha hb
  simp only [compiledTo_iff ha, compiledTo_iff hb, ← normalizeName_eq_iff, exists_eq_left',
    @eq_comm _ (normalizeName b.name)]

/-- A title is asked for under one spelling and ordered by under the other. A case that is not ASCII
tells names apart. -/
theorem titles_share_field :
    ¬ Attribute.Identifies ⟨"Title", .string⟩ ∧ ¬ Attribute.Identifies ⟨"title", .object⟩ ∧
      Attribute.CompiledTo ⟨"Title", .string⟩ "title" ∧
      Attribute.CompiledTo ⟨"title", .object⟩ "title" ∧
      ("Title" = "title" ∨ DifferInLeadingCase "Title" "title") ∧
      ¬ ∃ field, Attribute.CompiledTo ⟨"Élan", .string⟩ field ∧
        Attribute.CompiledTo ⟨"élan", .string⟩ field := by
  have hother (a : Attribute) (h : a.isIdentifier = false) : ¬ a.Identifies := by
    rw [← isIdentifier_iff, h]
    exact Bool.false_ne_true
  have hasked : (Filter.logical .and
      [.comparison .ge (.field [⟨"Pages", .int32⟩]) (.literal "100"),
        .matchText [⟨"Title", .string⟩] "sea"]).compile =
      .ok (.all [.range "pages" .gte (.long 100), .fuzzy "title" "sea"]) := by
    rfl
  have hordered : compileSort [⟨[⟨"title", .object⟩], false, false⟩] = .ok [⟨"title", .desc⟩] := by
    rfl
  have hfirst : Attribute.CompiledTo ⟨"Title", .string⟩ "title" :=
    .condition hasked (.tail _ (.head _)) (.matchText "sea") rfl
  have hsecond : Attribute.CompiledTo ⟨"title", .object⟩ "title" :=
    .key hordered (.head _) rfl rfl
  have htitles := hother ⟨"Title", .string⟩ rfl
  have hobjects := hother ⟨"title", .object⟩ rfl
  obtain ⟨hnames, -, -, hfields⟩ := collide_in_leading_case_only
  refine ⟨htitles, hobjects, hfirst, hsecond,
    (hfields _ _ htitles hobjects).mp ⟨"title", hfirst, hsecond⟩, ?_⟩
  rw [hfields _ _ (hother _ rfl) (hother _ rfl), ← hnames]
  decide

end ResourceQuery
