import ResourceQuery.Proofs.QuerySpelling

namespace ResourceQuery

open Json (Draft Source Slot Entry RecordSpelling Separate Gathers Error need TextSpelling
  FlagSpelling WordSpelling NameSpelling ListSpelling)

theorem Json.TextSpelling.text {s : String} {d : Draft} (h : TextSpelling s d) :
    d.text = .ok s := by
  cases h
  rfl

theorem Json.ListSpelling.ne_null {α : Type} {Spells : α → Draft → Prop} {xs : List α} {d : Draft}
    (h : ListSpelling Spells xs d) : d ≠ .null := by
  obtain ⟨ds, rfl, -⟩ := h
  nofun

theorem Json.ListSpelling.depth_pos {α : Type} {Spells : α → Draft → Prop} {xs : List α} {d : Draft}
    (h : ListSpelling Spells xs d) : 0 < d.depth := by
  obtain ⟨ds, rfl, -⟩ := h
  rw [Draft.depth]
  exact Nat.succ_pos _

theorem Json.FlagSpelling.boolean {b : Bool} {d : Draft} (h : FlagSpelling b d) :
    d.boolean = .ok b := by
  cases h
  rfl

theorem Json.WordSpelling.word {n : UInt32} {d : Draft} (h : WordSpelling n d) :
    Pagination.word d = .ok n := by
  cases h
  have hbound : Number.twoTo 32 = 4294967296 := rfl
  have hlt : n.toNat < Number.twoTo 32 := by
    rw [hbound]
    exact n.toNat_lt
  rw [Pagination.word, map_ok_iff]
  exact ⟨n.toNat, by simp [Draft.natural, hlt], UInt32.ofNat_toNat⟩

/-- A list is read item by item. -/
theorem Json.ListSpelling.list {α : Type} {Spells : α → Draft → Prop} {xs : List α} {d : Draft}
    {decode : Nat → Draft → Except Error α} {room : Nat} (h : ListSpelling Spells xs d)
    (hdepth : d.depth ≤ room)
    (hread : ∀ left, room = left + 1 → ∀ x ∈ xs, ∀ c, Spells x c → c.depth ≤ left →
      decode left c = .ok x) : Draft.list decode room d = .ok xs := by
  obtain ⟨ds, rfl, heach⟩ := h
  obtain ⟨left, rfl, hleft⟩ := Draft.depth_array_le.mp hdepth
  have hmem : List.Forall₂ (fun x c => x ∈ xs ∧ Spells x c) xs ds :=
    forall₂_of_mem heach fun x hx c hc => ⟨hx, hc⟩
  have hitems : ds.mapM (decode left) = .ok xs := by
    rw [mapM_ok_iff]
    exact forall₂_of_mem hmem.flip fun c hc x ⟨hx, hs⟩ => hread left rfl x hx c hs (hleft c hc)
  simp [Draft.list, Draft.items, hitems, Draft.intact]

/-- A choice without fields is read by its name. -/
theorem unitOf_spelled {α : Type} {all : List α} {name : α → String} {source : Source} {room : Nat}
    {d : Draft} {x : α} (hx : x ∈ all) (hnamed : named all name (name x) = .ok x)
    (h : NameSpelling (name x) d) (hdepth : d.depth ≤ room) :
    unitOf all name source room d = .ok x := by
  have hmem : name x ∈ all.map name := List.mem_map_of_mem hx
  have hknown : Json.known (all.map name) (name x) = .ok (name x) := by
    rw [Json.known, List.contains_iff_mem.mpr hmem]
    rfl
  have hchoice : d.unitChoice source (all.map name) room = .ok (name x) := by
    rcases h with rfl | rfl
    · cases source <;> exact hknown
    · obtain ⟨left, rfl, -⟩ := Draft.depth_object_le.mp hdepth
      cases source with
      | text => simp [Draft.unitChoice, Draft.unitMember, hknown, Draft.unit, Json.oneMember]
      | held => simp [Draft.unitChoice, hknown, Draft.unit]
  rw [unitOf, hchoice, ok_bind, hnamed]

theorem DeclaredType.decode_spelled {source : Source} {room : Nat} {t : DeclaredType} {d : Draft}
    (h : NameSpelling t.name d) (hdepth : d.depth ≤ room) :
    DeclaredType.decode source room d = .ok t :=
  unitOf_spelled (by cases t <;> decide) (by cases t <;> rfl) h hdepth

theorem Comparison.decode_spelled {room : Nat} {op : Comparison} {d : Draft}
    (h : NameSpelling op.name d) (hdepth : d.depth ≤ room) : Comparison.decode room d = .ok op :=
  unitOf_spelled (by cases op <;> decide) (by cases op <;> rfl) h hdepth

theorem Connective.decode_spelled {room : Nat} {op : Connective} {d : Draft}
    (h : NameSpelling op.name d) (hdepth : d.depth ≤ room) : Connective.decode room d = .ok op :=
  unitOf_spelled (by cases op <;> decide) (by cases op <;> rfl) h hdepth

theorem Attribute.separate (source : Source) (room : Nat) :
    Separate (Attribute.fields source room) := by
  constructor
  · simp [Attribute.fields, Slot.apart_of]
  · simp [Attribute.fields, Slot.counts_of]

theorem Attribute.decode_spelled {source : Source} {room : Nat} {a : Attribute} {d : Draft}
    (h : a.Spelled d) (hdepth : d.depth ≤ room) : Attribute.decode source room d = .ok a := by
  obtain ⟨left, rfl⟩ := h.exists_room hdepth
  have hgathers : Gathers left (Attribute.fields source left) a.entries ⟨none, none⟩
      (· = ⟨some a.name, some a.type⟩) :=
    .required rfl (fun _ hd _ => hd.text)
      (.required rfl (fun _ => DeclaredType.decode_spelled) rfl)
  obtain ⟨_, hp, rfl⟩ := h.record hdepth (Attribute.separate source left) rfl hgathers
  rw [Attribute.decode, hp]
  rfl

theorem FieldPath.decode_spelled {source : Source} {room : Nat} {path : FieldPath} {d : Draft}
    (h : path.Spelled d) (hdepth : d.depth ≤ room) : FieldPath.decode source room d = .ok path :=
  h.list hdepth fun _ _ _ _ _ => Attribute.decode_spelled

/-- A record of one field. -/
theorem recordOf_spelled {α : Type} {name : String} {decode : Nat → Draft → Except Error α}
    {Spells : Draft → Prop} {room : Nat} {d : Draft} {x : α}
    (h : RecordSpelling [.required name Spells] d) (hdepth : d.depth ≤ room + 1)
    (hread : ∀ c, Spells c → c.depth ≤ room → decode room c = .ok x) (source : Source)
    (title : String) : recordOf source title name decode (room + 1) d = .ok x := by
  have hseparate : Separate [Slot.of name false id (fun _ v => v) (decode room)] := by
    constructor
    · simp
    · simp [Slot.counts_of]
  have hgathers : Gathers room [Slot.of name false id (fun _ v => v) (decode room)]
      [.required name Spells] none (· = some x) :=
    .required rfl hread rfl
  have hrecord : ∃ s, d.record source title
      (fun room => [Slot.of name false id (fun _ v => v) (decode room)]) none (room + 1) = .ok s ∧
        s = some x :=
    h.record hdepth hseparate rfl hgathers
  obtain ⟨_, hp, rfl⟩ := hrecord
  rw [recordOf, hp]
  rfl

theorem pathOf_spelled {path : FieldPath} {room : Nat} {d : Draft}
    (h : RecordSpelling [.required "path" path.Spelled] d) (hdepth : d.depth ≤ room + 1)
    (source : Source) (title : String) :
    recordOf source title "path" (FieldPath.decode .held) (room + 1) d = .ok path :=
  recordOf_spelled h hdepth (fun _ => FieldPath.decode_spelled) source title

theorem Operand.decode_spelled {source : Source} {room : Nat} {o : Operand} {d : Draft}
    (h : o.Spelled d) (hdepth : d.depth ≤ room) : Operand.decode source room d = .ok o := by
  obtain ⟨left, rfl⟩ := h.exists_room hdepth
  have hvariant : o.variant ∈ names := by cases o <;> simp [variant, names]
  have htag : ∀ e ∈ o.entries, e.name ≠ "type" := by
    cases o <;> simp [entries, Entry.required]
  obtain ⟨rest, hread, hrest, hroom⟩ := h.tagged hvariant htag o.entries_intact hdepth
  rw [Operand.decode, hread, ok_bind]
  cases o with
  | field path =>
    simp [variant, pathOf_spelled hrest hroom]
  | literal value =>
    have hvalue : ∀ source title,
        recordOf source title "value" (fun _ => Draft.text) (left + 1) rest = .ok value :=
      recordOf_spelled hrest hroom fun _ hc _ => hc.text
    simp [variant, hvalue]
  | null =>
    cases hrest with
    | object _ _ _ => rfl
    | array each =>
      cases each
      rfl
  | count path =>
    simp [variant, pathOf_spelled hrest hroom]

namespace Filter

variable {title : String} {room : Nat} {d : Draft}

theorem comparison_separate (room : Nat) : Separate (comparisonFields room) := by
  constructor
  · simp [comparisonFields, Slot.apart_of]
  · simp [comparisonFields, Slot.counts_of]

theorem decodeComparison_spelled {op : Comparison} {l r : Operand}
    (h : RecordSpelling (comparison op l r).entries d) (hdepth : d.depth ≤ room + 1) :
    decodeComparison title (room + 1) d = .ok (.comparison op l r) := by
  have hgathers : Gathers room (comparisonFields room) (comparison op l r).entries
      ⟨none, none, none⟩ (· = ⟨some op, some l, some r⟩) :=
    .required rfl (fun _ => Comparison.decode_spelled)
      (.required rfl (fun _ => Operand.decode_spelled)
        (.required rfl (fun _ => Operand.decode_spelled) rfl))
  obtain ⟨_, hp, rfl⟩ := h.record hdepth (comparison_separate room) rfl hgathers
  rw [decodeComparison, hp]
  rfl

theorem matchText_separate (room : Nat) : Separate (matchTextFields room) := by
  constructor
  · simp [matchTextFields, Slot.apart_of]
  · simp [matchTextFields, Slot.counts_of]

theorem decodeMatchText_spelled {field : FieldPath} {text : String}
    (h : RecordSpelling (matchText field text).entries d) (hdepth : d.depth ≤ room + 1) :
    decodeMatchText title (room + 1) d = .ok (.matchText field text) := by
  have hgathers : Gathers room (matchTextFields room) (matchText field text).entries ⟨none, none⟩
      (· = ⟨some field, some text⟩) :=
    .required rfl (fun _ => FieldPath.decode_spelled) (.required rfl (fun _ hc _ => hc.text) rfl)
  obtain ⟨_, hp, rfl⟩ := h.record hdepth (matchText_separate room) rfl hgathers
  rw [decodeMatchText, hp]
  rfl

theorem equalsAnyOf_separate (room : Nat) : Separate (equalsAnyOfFields room) := by
  constructor
  · simp [equalsAnyOfFields, Slot.apart_of]
  · simp [equalsAnyOfFields, Slot.counts_of]

theorem decodeEqualsAnyOf_spelled {field : FieldPath} {values : List String}
    (h : RecordSpelling (equalsAnyOf field values).entries d) (hdepth : d.depth ≤ room + 1) :
    decodeEqualsAnyOf title (room + 1) d = .ok (.equalsAnyOf field values) := by
  have hvalues (c : Draft) (hc : ListSpelling TextSpelling values c) (hroom : c.depth ≤ room) :
      c.list (fun _ => Draft.text) room = .ok values :=
    hc.list hroom fun _ _ _ _ _ hs _ => hs.text
  have hgathers : Gathers room (equalsAnyOfFields room) (equalsAnyOf field values).entries
      ⟨none, none⟩ (· = ⟨some field, some values⟩) :=
    .required rfl (fun _ => FieldPath.decode_spelled) (.required rfl hvalues rfl)
  obtain ⟨_, hp, rfl⟩ := h.record hdepth (equalsAnyOf_separate room) rfl hgathers
  rw [decodeEqualsAnyOf, hp]
  rfl

theorem logical_separate (terms : Draft → Except Error (List Filter)) (room : Nat) :
    Separate (logicalFields terms room) := by
  constructor
  · simp [logicalFields, Slot.apart_of]
  · simp [logicalFields, Slot.counts_of]

theorem decodeLogical_spelled {readTerms : Draft → Except Error (List Filter)} {op : Connective}
    {terms : List Filter} (h : RecordSpelling (logical op terms).entries d)
    (hdepth : d.depth ≤ room + 1)
    (hterms : ∀ c, ListSpelling Filter.Spelled terms c → c.depth ≤ room → readTerms c = .ok terms) :
    decodeLogical readTerms title (room + 1) d = .ok (.logical op terms) := by
  have hread (c : Draft) (hc : ∃ ds, c = .array ds none ∧ EachSpelled terms ds)
      (hroom : c.depth ≤ room) : readTerms c = .ok terms := by
    simp only [eachSpelled_iff] at hc
    exact hterms c hc hroom
  have hgathers : Gathers room (logicalFields readTerms room) (logical op terms).entries
      ⟨none, none⟩ (· = ⟨some op, some terms⟩) :=
    .required rfl (fun _ => Connective.decode_spelled) (.required rfl hread rfl)
  obtain ⟨_, hp, rfl⟩ := h.record hdepth (logical_separate readTerms room) rfl hgathers
  rw [decodeLogical, hp]
  rfl

theorem entries_untagged (f : Filter) : ∀ e ∈ f.entries, e.name ≠ "type" := by
  cases f <;> simp [entries, Entry.required]

/-- Something inside every filter is a container too. -/
theorem exists_container (f : Filter) :
    ∃ e ∈ f.entries, ¬ e.MayLack ∧ ∀ c, e.Spells c → 0 < c.depth := by
  have hpath (path : FieldPath) (c : Draft) (hc : path.Spelled c) : 0 < c.depth := hc.depth_pos
  cases f with
  | comparison op left right =>
    exact ⟨.required "left" left.Spelled, by simp [entries], id, fun _ hc => hc.depth_pos⟩
  | matchText field text =>
    exact ⟨.required "field" field.Spelled, by simp [entries], id, hpath field⟩
  | equalsAnyOf field values =>
    exact ⟨.required "field" field.Spelled, by simp [entries], id, hpath field⟩
  | logical op terms =>
    have hterms (c : Draft) (hc : ListSpelling Filter.Spelled terms c) : 0 < c.depth := hc.depth_pos
    refine ⟨.required "terms" (ListSpelling Filter.Spelled terms), ?_, id, hterms⟩
    simp only [entries, eachSpelled_iff]
    exact List.mem_cons_of_mem _ List.mem_cons_self
  | not term =>
    have hterm (c : Draft) (hc : term.Spelled c) : 0 < c.depth := hc.depth_pos
    exact ⟨.required "term" term.Spelled, by simp [entries, Spelled], id, hterm⟩
  | fieldPath path =>
    exact ⟨.required "path" path.Spelled, by simp [entries], id, hpath path⟩
  | collectionNotEmpty path =>
    exact ⟨.required "path" path.Spelled, by simp [entries], id, hpath path⟩

/-- With room for its depth, a filter is read by the name under its tag, and there is room for two
containers. -/
theorem decode_of_named {source : Source} {f : Filter} (h : f.Spelled d) (hdepth : d.depth ≤ room)
    (hnamed : ∀ left rest, RecordSpelling f.entries rest → rest.depth ≤ left + 2 →
      decodeNamed (decode .held (left + 1)) (Draft.list (fun _ => decode .held left) (left + 1))
        f.variant (left + 2) rest = .ok f) : decode source room d = .ok f := by
  obtain ⟨e, he, hmust, hcontainer⟩ := f.exists_container
  obtain ⟨c, hc, hlt⟩ := h.depth_lt (List.mem_cons_of_mem _ he) hmust
  have hpos := hcontainer c hc
  obtain ⟨left, rfl⟩ : ∃ left, room = left + 2 := ⟨room - 2, by omega⟩
  have hvariant : f.variant ∈ names := by cases f <;> simp [variant, names]
  obtain ⟨rest, hread, hrest, hroom⟩ := h.tagged hvariant f.entries_untagged f.entries_intact hdepth
  rw [decode, hread]
  exact hnamed left rest hrest hroom

/-- A filter is read from each of its spellings, at the top of a layer or held back inside another
filter. -/
theorem decode_spelled {source : Source} {f : Filter} (h : f.Spelled d) (hdepth : d.depth ≤ room) :
    decode source room d = .ok f := by
  -- on the tree, for every source and room: a filter inside has been held back, with less room
  induction f generalizing source room d with
  | comparison op l r =>
    apply decode_of_named h hdepth
    intro left rest hrest hroom
    exact decodeComparison_spelled hrest hroom
  | matchText field text =>
    apply decode_of_named h hdepth
    intro left rest hrest hroom
    exact decodeMatchText_spelled hrest hroom
  | equalsAnyOf field values =>
    apply decode_of_named h hdepth
    intro left rest hrest hroom
    exact decodeEqualsAnyOf_spelled hrest hroom
  | logical op terms ih =>
    apply decode_of_named h hdepth
    intro left rest hrest hroom
    apply decodeLogical_spelled hrest hroom
    intro c hc hdepth
    apply hc.list hdepth
    intro _ hleft t ht b hb hdepth
    cases hleft
    exact ih t ht hb hdepth
  | not term ih =>
    apply decode_of_named h hdepth
    intro left rest hrest hroom
    rw [entries] at hrest
    have hterm : ∀ source title, recordOf source title "term" (fun _ => decode .held (left + 1))
        (left + 2) rest = .ok term :=
      recordOf_spelled hrest hroom fun _ => ih
    simp [variant, decodeNamed, hterm]
  | fieldPath path =>
    apply decode_of_named h hdepth
    intro left rest hrest hroom
    rw [entries] at hrest
    simp [variant, decodeNamed, pathOf_spelled hrest hroom]
  | collectionNotEmpty path =>
    apply decode_of_named h hdepth
    intro left rest hrest hroom
    rw [entries] at hrest
    simp [variant, decodeNamed, pathOf_spelled hrest hroom]

end Filter

theorem SortKey.separate (room : Nat) : Separate (SortKey.fields room) := by
  constructor
  · simp [SortKey.fields, Slot.apart_of]
  · simp [SortKey.fields, Slot.counts_of]

theorem SortKey.decode_spelled {room : Nat} {k : SortKey} {d : Draft} (h : k.Spelled d)
    (hdepth : d.depth ≤ room) : SortKey.decode room d = .ok k := by
  obtain ⟨left, rfl⟩ := h.exists_room hdepth
  have hgathers : Gathers left (SortKey.fields left) k.entries ⟨none, none, none⟩
      (fun p => p.path = some k.path ∧ p.ascending.getD true = k.ascending ∧
        p.aggregated.getD false = k.aggregated) := by
    apply Gathers.required rfl fun _ => FieldPath.decode_spelled
    apply Gathers.defaulted rfl rfl fun _ hd _ => hd.boolean
    intro ascending hascending
    apply Gathers.defaulted rfl rfl fun _ hd _ => hd.boolean
    intro aggregated haggregated
    refine ⟨rfl, ?_, ?_⟩
    · rcases hascending with rfl | ⟨rfl, h⟩
      · rfl
      · exact h.symm
    · rcases haggregated with rfl | ⟨rfl, h⟩
      · rfl
      · exact h.symm
  obtain ⟨p, hp, hpath, hascending, haggregated⟩ :=
    h.record hdepth (SortKey.separate left) rfl hgathers
  rw [SortKey.decode, hp, ok_bind, hpath, hascending, haggregated]
  rfl

theorem Pagination.separate (room : Nat) : Separate (Pagination.fields room) := by
  constructor
  · simp [Pagination.fields, Slot.apart_of]
  · simp [Pagination.fields, Slot.counts_of]

theorem Pagination.decode_spelled {room : Nat} {p : Pagination} {d : Draft} (h : p.Spelled d)
    (hdepth : d.depth ≤ room) : Pagination.decode room d = .ok p := by
  obtain ⟨left, rfl⟩ := h.exists_room hdepth
  have hsize (n : UInt32) (_ : p.pageSize = some n) (c : Draft) (hc : WordSpelling n c)
      (_ : c.depth ≤ left) : c ≠ .null ∧ Pagination.word c = .ok n := by
    refine ⟨?_, hc.word⟩
    cases hc
    nofun
  have hgathers : Gathers left (Pagination.fields left) p.entries ⟨none, none⟩
      (fun q => q.pageSize.join = p.pageSize ∧ q.pageNumber.getD 1 = p.pageNumber) := by
    apply Gathers.optional rfl rfl hsize
    intro size hsize
    apply Gathers.defaulted rfl rfl fun _ hd _ => hd.word
    intro number hnumber
    refine ⟨hsize, ?_⟩
    rcases hnumber with rfl | ⟨rfl, h⟩
    · rfl
    · exact h.symm
  obtain ⟨q, hq, hsize, hnumber⟩ := h.record hdepth (Pagination.separate left) rfl hgathers
  rw [Pagination.decode, hq, ok_bind, hsize, hnumber]
  rfl

theorem Layer.separate (room : Nat) : Separate (Layer.fields room) := by
  constructor
  · simp [Layer.fields, Slot.apart_of]
  · simp [Layer.fields, Slot.counts_of]

/-- A layer is read from each of its spellings. -/
theorem Layer.decode_spelled {room : Nat} {l : Layer} {d : Draft} (h : l.Spelled d)
    (hdepth : d.depth ≤ room) : Layer.decode room d = .ok l := by
  obtain ⟨left, rfl⟩ := h.exists_room hdepth
  have hgathers : Gathers left (Layer.fields left) l.entries ⟨none, none, none, none⟩
      (fun p => p.resource = some l.resource ∧ p.filter.join = l.filter ∧ p.sort.join = l.sort ∧
        p.pagination.join = l.pagination) := by
    apply Gathers.required rfl fun _ hd _ => hd.text
    apply Gathers.optional rfl rfl fun f _ c hc hroom =>
      ⟨hc.ne_null, Filter.decode_spelled hc hroom⟩
    intro filter hfilter
    apply Gathers.optional rfl rfl fun keys _ c hc hroom =>
      ⟨hc.ne_null, hc.list hroom fun _ _ _ _ _ => SortKey.decode_spelled⟩
    intro sort hsort
    apply Gathers.optional rfl rfl fun p _ c hc hroom =>
      ⟨hc.ne_null, Pagination.decode_spelled hc hroom⟩
    intro pagination hpagination
    exact ⟨rfl, hfilter, hsort, hpagination⟩
  obtain ⟨p, hp, hresource, hfilter, hsort, hpagination⟩ :=
    h.record hdepth (Layer.separate left) rfl hgathers
  rw [Layer.decode, hp, ok_bind, hresource, hfilter, hsort, hpagination]
  rfl

/-- A layer is read back from its canonical value as it is. -/
theorem Layer.decode_toJson {room : Nat} {l : Layer} (h : l.toJson.depth ≤ room) :
    Layer.decode room l.toJson.draft = .ok l :=
  Layer.decode_spelled l.spelled_toJson h

end ResourceQuery
