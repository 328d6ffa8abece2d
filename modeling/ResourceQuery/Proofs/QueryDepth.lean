import ResourceQuery.Proofs.JsonDepth
import ResourceQuery.Query.Decoding
import ResourceQuery.Query.Encoding

namespace ResourceQuery

open Json (Draft Source Slot Error need)

/-- Taking a value into the field keeps what is known of the parts that are gathered. -/
def Json.Slot.Keeps {σ : Type} (P : σ → Prop) (field : Slot σ) : Prop :=
  ∀ d s s', P s → field.take d s = .ok s' → P s'

theorem Json.Slot.of_keeps {σ α : Type} {P : σ → Prop} {name : String} {mayEnd : Bool}
    {get : σ → Option α} {put : σ → Option α → σ} {decode : Draft → Except Error α}
    (h : ∀ d v s, P s → decode d = .ok v → P (put s (some v))) :
    (Slot.of name mayEnd get put decode).Keeps P := by
  intro d s s' hs htake
  obtain ⟨v, hv, rfl⟩ := map_ok_iff.mp htake
  exact h d v s hs hv

theorem Json.takeMembers_keeps {σ : Type} {P : σ → Prop} {fields : List (Slot σ)}
    (hkeep : ∀ field ∈ fields, field.Keeps P) {ms : List (Except Json.SyntaxError String × Draft)}
    {s s' : σ} (hs : P s) (h : Json.takeMembers fields ms s = .ok s') : P s' := by
  induction ms generalizing s with
  | nil =>
    cases h
    exact hs
  | cons m ms ih =>
    obtain ⟨key, d⟩ := m
    rw [Json.takeMembers, bind_ok_iff] at h
    obtain ⟨name, -, h⟩ := h
    cases hfield : fields.find? (·.name = name) with
    | none =>
      simp only [hfield, bind_ok_iff] at h
      obtain ⟨-, -, h⟩ := h
      exact ih hs h
    | some field =>
      simp only [hfield] at h
      split at h
      · cases h
      · obtain ⟨t, ht, h⟩ := bind_ok_iff.mp h
        exact ih (hkeep field (List.mem_of_find?_eq_some hfield) d s t hs ht) h

theorem Json.takeItems_keeps {σ : Type} {P : σ → Prop} {source : Source} {title : String}
    {count index : Nat} {broken : Option Json.Fault} {fields : List (Slot σ)}
    (hkeep : ∀ field ∈ fields, field.Keeps P) {ds : List Draft} {s s' : σ} (hs : P s)
    (h : Json.takeItems source title count broken index fields ds s = .ok s') : P s' := by
  induction fields generalizing index ds s with
  | nil =>
    obtain ⟨-, -, h⟩ := bind_ok_iff.mp h
    cases h
    exact hs
  | cons field fields ih =>
    have hrest : ∀ f ∈ fields, f.Keeps P := fun f hf => hkeep f (by simp [hf])
    cases ds with
    | nil =>
      obtain ⟨-, -, h⟩ := bind_ok_iff.mp h
      split at h
      · exact ih hrest hs h
      · cases h
    | cons d ds =>
      obtain ⟨t, ht, h⟩ := bind_ok_iff.mp h
      exact ih hrest (hkeep field (by simp) d s t hs ht) h

/-- A record takes room for a container, and its parts are read in the room that is left. -/
theorem Json.Draft.record_keeps {σ : Type} {P : Nat → σ → Prop} {source : Source} {title : String}
    {fields : Nat → List (Slot σ)} {empty s : σ} {room : Nat} {d : Draft}
    (hempty : ∀ left, P left empty) (hkeep : ∀ left, ∀ field ∈ fields left, field.Keeps (P left))
    (h : d.record source title fields empty room = .ok s) : ∃ left, room = left + 1 ∧ P left s := by
  unfold Draft.record at h
  split at h
  next left ms broken =>
    obtain ⟨t, ht, h⟩ := bind_ok_iff.mp h
    obtain ⟨-, -, h⟩ := bind_ok_iff.mp h
    cases h
    exact ⟨left, rfl, Json.takeMembers_keeps (hkeep left) (hempty left) ht⟩
  next left ds broken =>
    exact ⟨left, rfl, Json.takeItems_keeps (hkeep left) (hempty left) h⟩
  all_goals cases h

theorem Json.Draft.record_room {σ : Type} {source : Source} {title : String}
    {fields : Nat → List (Slot σ)} {empty s : σ} {room : Nat} {d : Draft}
    (h : d.record source title fields empty room = .ok s) : ∃ left, room = left + 1 := by
  have hkeep (left : Nat) : ∀ field ∈ fields left, field.Keeps fun _ => True :=
    fun _ _ _ _ _ _ _ => trivial
  obtain ⟨left, hroom, -⟩ := Json.Draft.record_keeps (fun _ => trivial) hkeep h
  exact ⟨left, hroom⟩

/-- A list takes room for a container, and its items are read in the room that is left. -/
theorem Json.Draft.list_ok {α : Type} {decode : Nat → Draft → Except Error α} {room : Nat}
    {d : Draft} {xs : List α} (h : d.list decode room = .ok xs) :
    ∃ left, room = left + 1 ∧ ∀ x ∈ xs, ∃ e, decode left e = .ok x := by
  unfold Draft.list at h
  split at h
  next left ds broken =>
    obtain ⟨ys, hys, h⟩ := bind_ok_iff.mp h
    obtain ⟨-, -, h⟩ := bind_ok_iff.mp h
    cases h
    refine ⟨left, rfl, ?_⟩
    intro x hx
    obtain ⟨e, -, he⟩ := exists_of_mem_mapM hys hx
    exact ⟨e, he⟩
  all_goals cases h

theorem Json.Draft.tagged_ok {source : Source} {title tag : String} {names : List String}
    {room : Nat} {d : Draft} {choice : String × Draft}
    (h : d.tagged source title tag names room = .ok choice) : 0 < room := by
  unfold Draft.tagged at h
  split at h
  case h_4 => cases h
  case h_5 => cases h
  case h_6 => cases h
  all_goals exact Nat.succ_pos _

theorem Json.Draft.optional_ok {α : Type} {decode : Draft → Except Error α} {d : Draft}
    {o : Option α} {x : α} (h : Draft.optional decode d = .ok o) (hx : o = some x) :
    ∃ e, decode e = .ok x := by
  subst hx
  unfold Draft.optional at h
  split at h
  · cases h
  · obtain ⟨y, hy, hsome⟩ := map_ok_iff.mp h
    cases hsome
    exact ⟨_, hy⟩

theorem Attribute.depth_of_decode {source : Source} {room : Nat} {d : Draft} {a : Attribute}
    (h : Attribute.decode source room d = .ok a) : a.toJson.depth ≤ room := by
  obtain ⟨p, hp, -⟩ := bind_ok_iff.mp h
  obtain ⟨left, rfl⟩ := Json.Draft.record_room hp
  exact Json.depth_object_le.mpr ⟨left, rfl, by simp [DeclaredType.toJson]⟩

theorem FieldPath.depth_of_decode {source : Source} {room : Nat} {d : Draft} {path : FieldPath}
    (h : FieldPath.decode source room d = .ok path) : path.toJson.depth ≤ room := by
  obtain ⟨left, rfl, heach⟩ := Json.Draft.list_ok h
  refine Json.depth_array_le.mpr ⟨left, rfl, ?_⟩
  intro v hv
  obtain ⟨a, ha, rfl⟩ := List.mem_map.mp hv
  obtain ⟨e, he⟩ := heach a ha
  exact Attribute.depth_of_decode he

theorem recordOf_ok {α : Type} {source : Source} {title name : String}
    {decode : Nat → Draft → Except Error α} {room : Nat} {d : Draft} {x : α}
    (h : recordOf source title name decode room d = .ok x) :
    ∃ left, room = left + 1 ∧ ∃ e, decode left e = .ok x := by
  obtain ⟨o, ho, hneed⟩ := bind_ok_iff.mp h
  have hkeep (left : Nat) : ∀ slot ∈ [Slot.of name false id (fun _ v => v) (decode left)],
      slot.Keeps fun o => ∀ x, o = some x → ∃ e, decode left e = .ok x := by
    intro slot hslot
    cases List.mem_singleton.mp hslot
    apply Json.Slot.of_keeps
    intro e v _ _ he x hx
    cases hx
    exact ⟨e, he⟩
  obtain ⟨left, rfl, hleft⟩ := Json.Draft.record_keeps (by simp) hkeep ho
  cases o with
  | none => cases hneed
  | some y =>
    cases hneed
    exact ⟨left, rfl, hleft x rfl⟩

theorem Operand.depth_of_decode {source : Source} {room : Nat} {d : Draft} {o : Operand}
    (h : Operand.decode source room d = .ok o) : o.toJson.depth ≤ room := by
  obtain ⟨⟨name, rest⟩, htag, h⟩ := bind_ok_iff.mp h
  have hpos := Json.Draft.tagged_ok htag
  -- a path stands one container below the operand that it is a member of
  have hpath (path : FieldPath) (title : String)
      (hp : recordOf .held title "path" (FieldPath.decode .held) room rest = .ok path) :
      ∃ left, room = left + 1 ∧ path.toJson.depth ≤ left := by
    obtain ⟨left, rfl, e, he⟩ := recordOf_ok hp
    exact ⟨left, rfl, FieldPath.depth_of_decode he⟩
  simp only at h
  split at h
  · obtain ⟨path, hp, rfl⟩ := map_ok_iff.mp h
    obtain ⟨left, rfl, hle⟩ := hpath path _ hp
    exact Json.depth_object_le.mpr ⟨left, rfl, by simp [hle]⟩
  · obtain ⟨value, -, rfl⟩ := map_ok_iff.mp h
    exact Json.depth_object_le.mpr ⟨room - 1, by omega, by simp⟩
  · obtain ⟨-, -, h⟩ := bind_ok_iff.mp h
    cases h
    exact Json.depth_object_le.mpr ⟨room - 1, by omega, by simp⟩
  · obtain ⟨path, hp, rfl⟩ := map_ok_iff.mp h
    obtain ⟨left, rfl, hle⟩ := hpath path _ hp
    exact Json.depth_object_le.mpr ⟨left, rfl, by simp [hle]⟩

theorem need_ok {α : Type} {name : String} {o : Option α} {x : α} (h : need name o = .ok x) :
    o = some x := by
  cases o with
  | none => cases h
  | some y =>
    cases h
    rfl

theorem Filter.depth_of_decodeComparison {title : String} {room : Nat} {d : Draft} {f : Filter}
    (h : Filter.decodeComparison title room d = .ok f) : f.toJson.depth ≤ room := by
  obtain ⟨p, hp, h⟩ := bind_ok_iff.mp h
  obtain ⟨op, -, h⟩ := bind_ok_iff.mp h
  obtain ⟨l, hl, h⟩ := bind_ok_iff.mp h
  obtain ⟨r, hr, h⟩ := bind_ok_iff.mp h
  cases h
  have hkeep (left : Nat) : ∀ slot ∈ comparisonFields left, slot.Keeps fun p =>
      (∀ o, p.left = some o → o.toJson.depth ≤ left) ∧
        ∀ o, p.right = some o → o.toJson.depth ≤ left := by
    intro slot hslot
    simp only [comparisonFields, List.mem_cons, List.not_mem_nil, or_false] at hslot
    rcases hslot with rfl | rfl | rfl
    · exact Json.Slot.of_keeps fun _ _ _ hs _ => hs
    · exact Json.Slot.of_keeps fun _ _ _ hs hv =>
        ⟨fun _ ho => Option.some.inj ho ▸ Operand.depth_of_decode hv, hs.2⟩
    · exact Json.Slot.of_keeps fun _ _ _ hs hv =>
        ⟨hs.1, fun _ ho => Option.some.inj ho ▸ Operand.depth_of_decode hv⟩
  obtain ⟨left, rfl, hleft, hright⟩ := Json.Draft.record_keeps (by simp) hkeep hp
  rw [Filter.toJson]
  refine Json.depth_object_le.mpr ⟨left, rfl, ?_⟩
  simp [hleft l (need_ok hl), hright r (need_ok hr)]

theorem Filter.depth_of_decodeMatchText {title : String} {room : Nat} {d : Draft} {f : Filter}
    (h : Filter.decodeMatchText title room d = .ok f) : f.toJson.depth ≤ room := by
  obtain ⟨p, hp, h⟩ := bind_ok_iff.mp h
  obtain ⟨field, hfield, h⟩ := bind_ok_iff.mp h
  obtain ⟨text, -, h⟩ := bind_ok_iff.mp h
  cases h
  have hkeep (left : Nat) : ∀ slot ∈ matchTextFields left, slot.Keeps fun p =>
      ∀ path, p.field = some path → path.toJson.depth ≤ left := by
    intro slot hslot
    simp only [matchTextFields, List.mem_cons, List.not_mem_nil, or_false] at hslot
    rcases hslot with rfl | rfl
    · exact Json.Slot.of_keeps fun _ _ _ _ hv _ ho =>
        Option.some.inj ho ▸ FieldPath.depth_of_decode hv
    · exact Json.Slot.of_keeps fun _ _ _ hs _ => hs
  obtain ⟨left, rfl, hleft⟩ := Json.Draft.record_keeps (by simp) hkeep hp
  rw [Filter.toJson]
  refine Json.depth_object_le.mpr ⟨left, rfl, ?_⟩
  simp [hleft field (need_ok hfield)]

theorem strings_depth_of_list {room : Nat} {d : Draft} {values : List String}
    (h : Draft.list (fun _ => Draft.text) room d = .ok values) :
    (Json.strings values).depth ≤ room := by
  obtain ⟨left, rfl, -⟩ := Json.Draft.list_ok h
  exact Json.depth_array_le.mpr ⟨left, rfl, by simp⟩

theorem Filter.depth_of_decodeEqualsAnyOf {title : String} {room : Nat} {d : Draft} {f : Filter}
    (h : Filter.decodeEqualsAnyOf title room d = .ok f) : f.toJson.depth ≤ room := by
  obtain ⟨p, hp, h⟩ := bind_ok_iff.mp h
  obtain ⟨field, hfield, h⟩ := bind_ok_iff.mp h
  obtain ⟨values, hvalues, h⟩ := bind_ok_iff.mp h
  cases h
  have hkeep (left : Nat) : ∀ slot ∈ equalsAnyOfFields left, slot.Keeps fun p =>
      (∀ path, p.field = some path → path.toJson.depth ≤ left) ∧
        ∀ vs, p.values = some vs → (Json.strings vs).depth ≤ left := by
    intro slot hslot
    simp only [equalsAnyOfFields, List.mem_cons, List.not_mem_nil, or_false] at hslot
    rcases hslot with rfl | rfl
    · exact Json.Slot.of_keeps fun _ _ _ hs hv =>
        ⟨fun _ ho => Option.some.inj ho ▸ FieldPath.depth_of_decode hv, hs.2⟩
    · exact Json.Slot.of_keeps fun _ _ _ hs hv =>
        ⟨hs.1, fun _ ho => Option.some.inj ho ▸ strings_depth_of_list hv⟩
  obtain ⟨left, rfl, hpath, hstrings⟩ := Json.Draft.record_keeps (by simp) hkeep hp
  rw [Filter.toJson]
  refine Json.depth_object_le.mpr ⟨left, rfl, ?_⟩
  simp [hpath field (need_ok hfield), hstrings values (need_ok hvalues)]

theorem Filter.depth_of_decodeLogical {terms : Draft → Except Error (List Filter)} {title : String}
    {left : Nat} {d : Draft} {f : Filter}
    (hterms : ∀ e ts, terms e = .ok ts → (Json.array (Filter.listToJson ts)).depth ≤ left)
    (h : Filter.decodeLogical terms title (left + 1) d = .ok f) : f.toJson.depth ≤ left + 1 := by
  obtain ⟨p, hp, h⟩ := bind_ok_iff.mp h
  obtain ⟨op, -, h⟩ := bind_ok_iff.mp h
  obtain ⟨ts, hts, h⟩ := bind_ok_iff.mp h
  cases h
  have hkeep (room : Nat) : ∀ slot ∈ logicalFields terms room, slot.Keeps fun p =>
      ∀ ts, p.terms = some ts → (Json.array (Filter.listToJson ts)).depth ≤ left := by
    intro slot hslot
    simp only [logicalFields, List.mem_cons, List.not_mem_nil, or_false] at hslot
    rcases hslot with rfl | rfl
    · exact Json.Slot.of_keeps fun _ _ _ hs _ => hs
    · exact Json.Slot.of_keeps fun _ _ _ _ hv _ ho => Option.some.inj ho ▸ hterms _ _ hv
  obtain ⟨_, -, hleft⟩ := Json.Draft.record_keeps (by simp) hkeep hp
  rw [Filter.toJson]
  refine Json.depth_object_le.mpr ⟨left, rfl, ?_⟩
  simp [hleft ts (need_ok hts)]

/-- A filter is as shallow as its room where the filters inside it are as shallow as theirs. -/
theorem Filter.depth_of_decodeNamed {term : Draft → Except Error Filter}
    {terms : Draft → Except Error (List Filter)} {name : String} {left : Nat} {d : Draft}
    {f : Filter}
    (hterm : ∀ e t, term e = .ok t → t.toJson.depth ≤ left)
    (hterms : ∀ e ts, terms e = .ok ts → (Json.array (Filter.listToJson ts)).depth ≤ left)
    (h : Filter.decodeNamed term terms name (left + 1) d = .ok f) : f.toJson.depth ≤ left + 1 := by
  have hpath (path : FieldPath) (title : String)
      (hp : recordOf .held title "path" (FieldPath.decode .held) (left + 1) d = .ok path) :
      path.toJson.depth ≤ left := by
    obtain ⟨_, ⟨⟩, e, he⟩ := recordOf_ok hp
    exact FieldPath.depth_of_decode he
  unfold Filter.decodeNamed at h
  simp only at h
  split at h
  · exact Filter.depth_of_decodeComparison h
  · exact Filter.depth_of_decodeMatchText h
  · exact Filter.depth_of_decodeEqualsAnyOf h
  · exact Filter.depth_of_decodeLogical hterms h
  · obtain ⟨t, ht, rfl⟩ := map_ok_iff.mp h
    obtain ⟨_, -, e, he⟩ := recordOf_ok ht
    rw [Filter.toJson]
    exact Json.depth_object_le.mpr ⟨left, rfl, by simp [hterm e t he]⟩
  · obtain ⟨path, hp, rfl⟩ := map_ok_iff.mp h
    rw [Filter.toJson]
    exact Json.depth_object_le.mpr ⟨left, rfl, by simp [hpath path _ hp]⟩
  · obtain ⟨path, hp, rfl⟩ := map_ok_iff.mp h
    rw [Filter.toJson]
    exact Json.depth_object_le.mpr ⟨left, rfl, by simp [hpath path _ hp]⟩

theorem Filter.listToJson_depth {ts : List Filter} {left : Nat}
    (h : ∀ t ∈ ts, t.toJson.depth ≤ left) :
    (Json.array (Filter.listToJson ts)).depth ≤ left + 1 := by
  rw [Filter.listToJson_eq_map]
  refine Json.depth_array_le.mpr ⟨left, rfl, ?_⟩
  intro v hv
  obtain ⟨t, ht, rfl⟩ := List.mem_map.mp hv
  exact h t ht

/-- A filter that is read within some room has a canonical form that fits the room. -/
theorem Filter.depth_of_decode {source : Source} {room : Nat} {d : Draft} {f : Filter}
    (h : Filter.decode source room d = .ok f) : f.toJson.depth ≤ room := by
  induction room using Nat.strongRecOn generalizing source d f with
  | ind room ih =>
    rw [Filter.decode, bind_ok_iff] at h
    obtain ⟨⟨name, rest⟩, -, h⟩ := h
    match room, ih, h with
    | 0, _, h => cases h
    | 1, ih, h =>
      refine Filter.depth_of_decodeNamed (fun e t ht => ih 0 (by omega) ht) ?_ h
      intro e ts hts
      cases hts
    | left + 2, ih, h =>
      refine Filter.depth_of_decodeNamed (fun e t ht => ih (left + 1) (by omega) ht) ?_ h
      intro e ts hts
      obtain ⟨_, ⟨⟩, heach⟩ := Json.Draft.list_ok hts
      apply Filter.listToJson_depth
      intro t ht
      obtain ⟨e, he⟩ := heach t ht
      exact ih left (by omega) he

theorem SortKey.depth_of_decode {room : Nat} {d : Draft} {k : SortKey}
    (h : SortKey.decode room d = .ok k) : k.toJson.depth ≤ room := by
  obtain ⟨p, hp, h⟩ := bind_ok_iff.mp h
  obtain ⟨path, hpath, h⟩ := bind_ok_iff.mp h
  cases h
  have hkeep (left : Nat) : ∀ slot ∈ SortKey.fields left, slot.Keeps fun p =>
      ∀ path, p.path = some path → path.toJson.depth ≤ left := by
    intro slot hslot
    simp only [SortKey.fields, List.mem_cons, List.not_mem_nil, or_false] at hslot
    rcases hslot with rfl | rfl | rfl
    · exact Json.Slot.of_keeps fun _ _ _ _ hv _ ho =>
        Option.some.inj ho ▸ FieldPath.depth_of_decode hv
    · exact Json.Slot.of_keeps fun _ _ _ hs _ => hs
    · exact Json.Slot.of_keeps fun _ _ _ hs _ => hs
  obtain ⟨left, rfl, hleft⟩ := Json.Draft.record_keeps (by simp) hkeep hp
  refine Json.depth_object_le.mpr ⟨left, rfl, ?_⟩
  simp [hleft path (need_ok hpath)]

theorem decodeSort_depth {room : Nat} {d : Draft} {keys : List SortKey}
    (h : decodeSort room d = .ok keys) : (sortToJson keys).depth ≤ room := by
  obtain ⟨left, rfl, heach⟩ := Json.Draft.list_ok h
  refine Json.depth_array_le.mpr ⟨left, rfl, ?_⟩
  intro v hv
  obtain ⟨k, hk, rfl⟩ := List.mem_map.mp hv
  obtain ⟨e, he⟩ := heach k hk
  exact SortKey.depth_of_decode he

theorem Pagination.depth_of_decode {room : Nat} {d : Draft} {p : Pagination}
    (h : Pagination.decode room d = .ok p) : p.toJson.depth ≤ room := by
  obtain ⟨parts, hparts, -⟩ := bind_ok_iff.mp h
  obtain ⟨left, rfl⟩ := Json.Draft.record_room hparts
  refine Json.depth_object_le.mpr ⟨left, rfl, ?_⟩
  cases p.pageSize <;> simp [Json.memberIf]

/-- What was gathered of a layer fits the room that is left inside it. -/
structure Layer.Parts.Within (left : Nat) (p : Layer.Parts) : Prop where
  filter : ∀ f, p.filter = some (some f) → f.toJson.depth ≤ left
  sort : ∀ keys, p.sort = some (some keys) → (sortToJson keys).depth ≤ left
  pagination : ∀ page, p.pagination = some (some page) → page.toJson.depth ≤ left

theorem Layer.fields_keep (left : Nat) :
    ∀ slot ∈ Layer.fields left, slot.Keeps (Layer.Parts.Within left) := by
  intro slot hslot
  simp only [Layer.fields, List.mem_cons, List.not_mem_nil, or_false] at hslot
  rcases hslot with rfl | rfl | rfl | rfl
  · exact Json.Slot.of_keeps fun _ _ _ hs _ => ⟨hs.filter, hs.sort, hs.pagination⟩
  · refine Json.Slot.of_keeps fun d v s hs hv => ⟨?_, hs.sort, hs.pagination⟩
    intro f hf
    obtain ⟨e, he⟩ := Json.Draft.optional_ok hv (Option.some.inj hf)
    exact Filter.depth_of_decode he
  · refine Json.Slot.of_keeps fun d v s hs hv => ⟨hs.filter, ?_, hs.pagination⟩
    intro keys hkeys
    obtain ⟨e, he⟩ := Json.Draft.optional_ok hv (Option.some.inj hkeys)
    exact decodeSort_depth he
  · refine Json.Slot.of_keeps fun d v s hs hv => ⟨hs.filter, hs.sort, ?_⟩
    intro page hpage
    obtain ⟨e, he⟩ := Json.Draft.optional_ok hv (Option.some.inj hpage)
    exact Pagination.depth_of_decode he

/-- A layer that is read within some room has a canonical form that fits the room. -/
theorem Layer.depth_of_decode {room : Nat} {d : Draft} {l : Layer}
    (h : Layer.decode room d = .ok l) : l.toJson.depth ≤ room := by
  obtain ⟨p, hp, h⟩ := bind_ok_iff.mp h
  obtain ⟨resource, -, h⟩ := bind_ok_iff.mp h
  cases h
  obtain ⟨left, rfl, hparts⟩ := Json.Draft.record_keeps (fun _ => ⟨nofun, nofun, nofun⟩)
    Layer.fields_keep hp
  have hfilter : ∀ f, p.filter.join = some f → f.toJson.depth ≤ left :=
    fun f hf => hparts.filter f (Option.join_eq_some_iff.mp hf)
  have hsort : ∀ keys, p.sort.join = some keys → (sortToJson keys).depth ≤ left :=
    fun keys hkeys => hparts.sort keys (Option.join_eq_some_iff.mp hkeys)
  have hpagination : ∀ page, p.pagination.join = some page → page.toJson.depth ≤ left :=
    fun page hpage => hparts.pagination page (Option.join_eq_some_iff.mp hpage)
  refine Json.depth_object_le.mpr ⟨left, rfl, ?_⟩
  intro m hm
  simp only [List.mem_cons, List.mem_append] at hm
  rcases hm with rfl | (hm | hm) | hm
  · simp
  · exact Json.forall_memberIf (P := fun v => v.depth ≤ left) hfilter m hm
  · exact Json.forall_memberIf (P := fun v => v.depth ≤ left) hsort m hm
  · exact Json.forall_memberIf (P := fun v => v.depth ≤ left) hpagination m hm

end ResourceQuery
