import ResourceQuery.Json.Decode
import ResourceQuery.Proofs.Documents

namespace ResourceQuery.Json

/-- A field of a record that is being written: the drafts that stand for its value, and whether an
object may go without it. -/
structure Entry where
  name : String
  Spells : Draft → Prop
  MayLack : Prop

namespace Entry

/-- A field that is always written. -/
def required (name : String) (Spells : Draft → Prop) : Entry :=
  ⟨name, Spells, False⟩

/-- A field whose value may be absent; then it can be null or left out. -/
def optional {α : Type} (name : String) (Spells : α → Draft → Prop) (o : Option α) : Entry :=
  ⟨name, fun d => o.elim (d = .null) (Spells · d), o = none⟩

/-- A field that can be left out where it has its default. -/
def defaulted (name : String) (Spells : Draft → Prop) (IsDefault : Prop) : Entry :=
  ⟨name, Spells, IsDefault⟩

/-- The tag of a choice. -/
def tag (name : String) : Entry :=
  .required "type" (· = .string (.ok name))

/-- Nothing that stands for the value has a fault. -/
def Intact (e : Entry) : Prop :=
  ∀ d, e.Spells d → d.Whole

@[simp]
theorem required_intact {name : String} {Spells : Draft → Prop} :
    (required name Spells).Intact ↔ ∀ d, Spells d → d.Whole :=
  Iff.rfl

@[simp]
theorem tag_intact (name : String) : (tag name).Intact := by
  intro d hd
  cases hd
  exact .string name

end Entry

/-- Members for fields in their own order, some of which may be left out. -/
inductive Present : List Entry → List (Except SyntaxError String × Draft) → Prop where
  | nil : Present [] []
  | given {e : Entry} {es : List Entry} {d : Draft} {ms : List (Except SyntaxError String × Draft)}
      (hd : e.Spells d) (h : Present es ms) : Present (e :: es) ((.ok e.name, d) :: ms)
  | lacking {e : Entry} {es : List Entry} {ms : List (Except SyntaxError String × Draft)}
      (he : e.MayLack) (h : Present es ms) : Present (e :: es) ms

/-- A member that a record of these fields does not know, with any value that can be read. -/
def Unknown (entries : List Entry) (m : Except SyntaxError String × Draft) : Prop :=
  ∃ k, m.1 = .ok k ∧ (∀ e ∈ entries, e.name ≠ k) ∧ m.2.Accepted

/-- What stands for a record: an object of its fields in any order, among members that the record
does not know, or an array of all its fields. -/
inductive RecordSpelling (entries : List Entry) : Draft → Prop where
  | object {known unknown ms : List (Except SyntaxError String × Draft)}
      (hknown : Present entries known) (hunknown : ∀ m ∈ unknown, Unknown entries m)
      (order : ms.Perm (known ++ unknown)) : RecordSpelling entries (.object ms none)
  | array {ds : List Draft} (each : List.Forall₂ Entry.Spells entries ds) :
      RecordSpelling entries (.array ds none)

theorem Present.mem {entries : List Entry} {ms : List (Except SyntaxError String × Draft)}
    (h : Present entries ms) {m : Except SyntaxError String × Draft} (hm : m ∈ ms) :
    ∃ e ∈ entries, m.1 = .ok e.name ∧ e.Spells m.2 := by
  induction h with
  | nil => cases hm
  | @given e es d ms hd _ ih =>
    rcases List.mem_cons.mp hm with rfl | hm
    · exact ⟨e, by simp, rfl, hd⟩
    · obtain ⟨f, hf, hkey, hspells⟩ := ih hm
      exact ⟨f, by simp [hf], hkey, hspells⟩
  | lacking _ _ ih =>
    obtain ⟨f, hf, hkey, hspells⟩ := ih hm
    exact ⟨f, by simp [hf], hkey, hspells⟩

/-- A field that must not be left out is there. -/
theorem Present.find {entries : List Entry} {ms : List (Except SyntaxError String × Draft)}
    (h : Present entries ms) {e : Entry} (he : e ∈ entries) (hmust : ¬ e.MayLack) :
    ∃ m ∈ ms, e.Spells m.2 := by
  induction h with
  | nil => cases he
  | @given f es d ms hd _ ih =>
    rcases List.mem_cons.mp he with rfl | he
    · exact ⟨(.ok e.name, d), by simp, hd⟩
    · obtain ⟨m, hm, hspells⟩ := ih he
      exact ⟨m, by simp [hm], hspells⟩
  | lacking hf _ ih =>
    rcases List.mem_cons.mp he with rfl | he
    · exact absurd hf hmust
    · exact ih he

namespace RecordSpelling

variable {entries : List Entry} {d : Draft}

/-- The members can be the fields of the record alone. -/
theorem of_known {known ms : List (Except SyntaxError String × Draft)}
    (h : Present entries known) (order : ms.Perm known) :
    RecordSpelling entries (.object ms none) := by
  have hunknown : ∀ m ∈ ([] : List (Except SyntaxError String × Draft)), Unknown entries m := nofun
  rw [← List.append_nil known] at order
  exact .object h hunknown order

/-- A record has no fault if its fields have none. -/
theorem whole (h : RecordSpelling entries d) (hes : ∀ e ∈ entries, e.Intact) :
    d.Whole := by
  cases h with
  | @object known unknown ms hknown hunknown order =>
    have hmember (m) (hm : m ∈ ms) : (∃ k, m.1 = .ok k) ∧ m.2.Whole := by
      rcases List.mem_append.mp (order.mem_iff.mp hm) with hm | hm
      · obtain ⟨e, he, hkey, hspells⟩ := hknown.mem hm
        exact ⟨⟨e.name, hkey⟩, hes e he _ hspells⟩
      · obtain ⟨k, hkey, -, haccepted⟩ := hunknown m hm
        exact ⟨⟨k, hkey⟩, Draft.accepted_iff_whole.mp haccepted⟩
    exact .object (fun m hm => (hmember m hm).1) fun m hm => (hmember m hm).2
  | array each =>
    apply Draft.Whole.array
    intro c hc
    obtain ⟨e, he, hspells⟩ := exists_left_of_forall₂ each hc
    exact hes e he c hspells

/-- A record lies deeper than its fields. -/
theorem depth_lt (h : RecordSpelling entries d) {e : Entry} (he : e ∈ entries)
    (hmust : ¬ e.MayLack) : ∃ c, e.Spells c ∧ c.depth < d.depth := by
  cases h with
  | @object known unknown ms hknown hunknown order =>
    obtain ⟨m, hm, hspells⟩ := hknown.find he hmust
    have hin : m ∈ ms := order.mem_iff.mpr (List.mem_append_left _ hm)
    obtain ⟨left, hroom, hleft⟩ :=
      Draft.depth_object_le.mp (Nat.le_refl (Draft.object ms none).depth)
    have hle := hleft m hin
    exact ⟨m.2, hspells, by omega⟩
  | @array ds each =>
    obtain ⟨c, hc, hspells⟩ := exists_right_of_forall₂ each he
    obtain ⟨left, hroom, hleft⟩ :=
      Draft.depth_array_le.mp (Nat.le_refl (Draft.array ds none).depth)
    have hle := hleft c hc
    exact ⟨c, hspells, by omega⟩

theorem exists_room (h : RecordSpelling entries d) {room : Nat} (hdepth : d.depth ≤ room) :
    ∃ left, room = left + 1 := by
  cases h with
  | object _ _ _ =>
    obtain ⟨left, rfl, -⟩ := Draft.depth_object_le.mp hdepth
    exact ⟨left, rfl⟩
  | array _ =>
    obtain ⟨left, rfl, -⟩ := Draft.depth_array_le.mp hdepth
    exact ⟨left, rfl⟩

theorem depth_pos (h : RecordSpelling entries d) : 0 < d.depth := by
  obtain ⟨left, hleft⟩ := h.exists_room (Nat.le_refl _)
  rw [hleft]
  exact Nat.succ_pos left

theorem ne_null (h : RecordSpelling entries d) : d ≠ .null := by
  cases h <;> nofun

end RecordSpelling

/-- What is taken into `f` and then into `g` can be taken the other way round. -/
def Slot.Yields {σ : Type} (f g : Slot σ) : Prop :=
  ∀ d s t, f.take d s = .ok t → g.given t = g.given s ∧
    ∀ e u, g.take e t = .ok u → ∃ v, g.take e s = .ok v ∧ f.take d v = .ok u

/-- Two fields that are gathered in different places. -/
structure Slot.Apart {σ : Type} (f g : Slot σ) : Prop where
  names : f.name ≠ g.name
  yields : f.Yields g
  yields' : g.Yields f

/-- A field is given once it has been taken. -/
def Slot.Counts {σ : Type} (f : Slot σ) : Prop :=
  ∀ d s t, f.take d s = .ok t → f.given t

/-- All fields are gathered in different places, each of them once. -/
structure Separate {σ : Type} (fields : List (Slot σ)) : Prop where
  apart : fields.Pairwise Slot.Apart
  counts : ∀ f ∈ fields, f.Counts

variable {σ : Type} {fields : List (Slot σ)}

section Places

variable {α β : Type} {name name' : String} {mayEnd mayEnd' : Bool}
  {get : σ → Option α} {put : σ → Option α → σ} {decode : Draft → Except Error α}
  {get' : σ → Option β} {put' : σ → Option β → σ} {decode' : Draft → Except Error β}

theorem Slot.yields_of (hget : ∀ s o, get' (put s o) = get' s)
    (hput : ∀ s o p, put' (put s o) p = put (put' s p) o) :
    (Slot.of name mayEnd get put decode).Yields (.of name' mayEnd' get' put' decode') := by
  intro d s t h
  obtain ⟨x, hx, rfl⟩ := map_ok_iff.mp h
  refine ⟨by simp [Slot.of, hget], ?_⟩
  intro e u h
  obtain ⟨y, hy, rfl⟩ := map_ok_iff.mp h
  refine ⟨put' s (some y), by simp [Slot.of, hy, Except.map], ?_⟩
  simp [Slot.of, hx, Except.map, hput]

/-- What is put in one place neither shows in the other nor covers it. -/
theorem Slot.apart_of (names : name ≠ name') (hget : ∀ s o, get (put' s o) = get s)
    (hget' : ∀ s o, get' (put s o) = get' s)
    (hput : ∀ s o p, put' (put s o) p = put (put' s p) o) :
    (Slot.of name mayEnd get put decode).Apart (.of name' mayEnd' get' put' decode') :=
  ⟨names, Slot.yields_of hget' hput, Slot.yields_of hget fun s o p => (hput s p o).symm⟩

end Places

theorem Slot.counts_of {α : Type} {name : String} {mayEnd : Bool} {get : σ → Option α}
    {put : σ → Option α → σ} {decode : Draft → Except Error α}
    (h : ∀ s x, get (put s (some x)) = some x) : (Slot.of name mayEnd get put decode).Counts := by
  intro d s t ht
  obtain ⟨x, -, rfl⟩ := map_ok_iff.mp ht
  simp [Slot.of, h]

instance : Std.Symm (@Slot.Apart σ) :=
  ⟨fun _ _ h => ⟨h.names.symm, h.yields', h.yields⟩⟩

theorem Separate.apart_of_ne (h : Separate fields) {f g : Slot σ} (hf : f ∈ fields)
    (hg : g ∈ fields) (hne : f.name ≠ g.name) : f.Apart g := by
  have hslots : f ≠ g := by
    intro heq
    subst heq
    exact hne rfl
  exact h.apart.forall hf hg hslots

/-- A field is found under its name. -/
theorem Separate.find (h : Separate fields) {f : Slot σ} (hf : f ∈ fields) :
    fields.find? (·.name = f.name) = some f := by
  obtain ⟨g, hg⟩ : ∃ g, fields.find? (·.name = f.name) = some g := by
    apply Option.isSome_iff_exists.mp
    rw [List.find?_isSome]
    exact ⟨f, hf, by simp⟩
  have hname : g.name = f.name := by simpa using List.find?_some hg
  by_cases hsame : g = f
  · rw [hg, hsame]
  · have hapart := h.apart.forall (List.mem_of_find?_eq_some hg) hf hsame
    exact absurd hname hapart.names

/-- One member alone is unknown and passed over, or taken into its field. -/
def TakesMember (fields : List (Slot σ)) (m : Except SyntaxError String × Draft) (s t : σ) : Prop :=
  ∃ k, m.1 = .ok k ∧
    (fields.find? (·.name = k) = none ∧ m.2.skip = .ok () ∧ t = s ∨
      ∃ f, fields.find? (·.name = k) = some f ∧ f.given s = false ∧ f.take m.2 s = .ok t)

theorem takeMembers_cons_iff {m : Except SyntaxError String × Draft}
    {ms : List (Except SyntaxError String × Draft)} {s t : σ} :
    takeMembers fields (m :: ms) s = .ok t ↔
      ∃ u, TakesMember fields m s u ∧ takeMembers fields ms u = .ok t := by
  obtain ⟨key, d⟩ := m
  cases key with
  | error e => simp [TakesMember, takeMembers, orMalformed, Except.mapError, bind, Except.bind]
  | ok k =>
    simp only [TakesMember, takeMembers, orMalformed_ok, ok_bind, Except.ok.injEq, exists_eq_left']
    cases fields.find? (·.name = k) with
    | none => cases hskip : d.skip <;> simp [orMalformed, Except.mapError, bind, Except.bind]
    | some f => cases hgiven : f.given s <;> simp [misshapen, bind_ok_iff, hgiven]

theorem takeMembers_append_iff {ms ns : List (Except SyntaxError String × Draft)} {s t : σ} :
    takeMembers fields (ms ++ ns) s = .ok t ↔
      ∃ u, takeMembers fields ms s = .ok u ∧ takeMembers fields ns u = .ok t := by
  induction ms generalizing s with
  | nil => simp [takeMembers]
  | cons m ms ih =>
    simp only [List.cons_append, takeMembers_cons_iff, ih]
    constructor
    · intro ⟨u, hu, v, hv, ht⟩
      exact ⟨v, ⟨u, hu, hv⟩, ht⟩
    · intro ⟨v, ⟨u, hu, hv⟩, ht⟩
      exact ⟨u, hu, v, hv, ht⟩

/-- Two members next to each other can change places. -/
theorem takesMember_swap (hf : Separate fields) {m n : Except SyntaxError String × Draft}
    {s t u : σ} (hm : TakesMember fields m s t) (hn : TakesMember fields n t u) :
    ∃ v, TakesMember fields n s v ∧ TakesMember fields m v u := by
  obtain ⟨k, hk, hm⟩ := hm
  obtain ⟨l, hl, hn⟩ := hn
  rcases hm with ⟨hnone, hskip, rfl⟩ | ⟨f, hfind, hgiven, htake⟩
  · exact ⟨u, ⟨l, hl, hn⟩, k, hk, .inl ⟨hnone, hskip, rfl⟩⟩
  rcases hn with ⟨hnone, hskip, rfl⟩ | ⟨g, hfind', hgiven', htake'⟩
  · exact ⟨s, ⟨l, hl, .inl ⟨hnone, hskip, rfl⟩⟩, k, hk, .inr ⟨f, hfind, hgiven, htake⟩⟩
  have hfmem := List.mem_of_find?_eq_some hfind
  have hgmem := List.mem_of_find?_eq_some hfind'
  have hnames : f.name ≠ g.name := by
    intro hsame
    -- the second member would be a duplicate of the first
    have hfg : f = g := by
      have hlookup := hf.find hfmem
      rw [hsame, hf.find hgmem] at hlookup
      exact (Option.some.inj hlookup).symm
    subst hfg
    rw [hf.counts f hfmem _ _ _ htake] at hgiven'
    cases hgiven'
  have hapart := hf.apart_of_ne hfmem hgmem hnames
  obtain ⟨hsame, hswap⟩ := hapart.yields _ _ _ htake
  obtain ⟨v, hv, hu⟩ := hswap _ _ htake'
  refine ⟨v, ⟨l, hl, .inr ⟨g, hfind', hsame ▸ hgiven', hv⟩⟩, k, hk, .inr ⟨f, hfind, ?_, hu⟩⟩
  rw [(hapart.yields' _ _ _ hv).1, hgiven]

/-- The members of an object come to the same in any order. -/
theorem takeMembers_perm (hf : Separate fields) {ms ns : List (Except SyntaxError String × Draft)}
    (hperm : ms.Perm ns) {s t : σ} (h : takeMembers fields ms s = .ok t) :
    takeMembers fields ns s = .ok t := by
  -- neighbours change places one pair at a time
  induction hperm generalizing s t with
  | nil => exact h
  | cons m _ ih =>
    obtain ⟨u, hu, h⟩ := takeMembers_cons_iff.mp h
    exact takeMembers_cons_iff.mpr ⟨u, hu, ih h⟩
  | swap m n ms =>
    obtain ⟨u, hu, h⟩ := takeMembers_cons_iff.mp h
    obtain ⟨v, hv, h⟩ := takeMembers_cons_iff.mp h
    obtain ⟨w, hw, hv⟩ := takesMember_swap hf hu hv
    exact takeMembers_cons_iff.mpr ⟨w, hw, takeMembers_cons_iff.mpr ⟨v, hv, h⟩⟩
  | trans _ _ ih ih' => exact ih' (ih h)

theorem Draft.optional_of_ok {α : Type} {decode : Draft → Except Error α} {d : Draft} {x : α}
    (hd : d ≠ .null) (h : decode d = .ok x) : Draft.optional decode d = .ok (some x) := by
  unfold Draft.optional
  split
  next => exact absurd rfl hd
  next => rw [h]; rfl

/-- The slots fit the entries: whatever stands for a field is taken into its slot, and whichever
fields are left out that may be, what has been gathered in the end is as `P` says. -/
def Gathers (room : Nat) : List (Slot σ) → List Entry → σ → (σ → Prop) → Prop
  | [], [], s, P => P s
  | f :: fs, e :: es, s, P =>
    f.given s = false ∧
      (∀ d, e.Spells d → d.depth ≤ room → ∃ t, f.take d s = .ok t ∧ Gathers room fs es t P) ∧
      (e.MayLack → Gathers room fs es s P)
  | _, _, _, _ => False

section Fields

variable {α : Type} {room : Nat} {name : String} {mayEnd : Bool} {fs : List (Slot σ)}
  {es : List Entry} {s : σ} {P : σ → Prop}

theorem Gathers.defaulted {get : σ → Option α} {put : σ → Option α → σ}
    {decode : Draft → Except Error α} {Spells : Draft → Prop} {IsDefault : Prop} {x : α}
    (hget : get s = none) (hput : put s none = s)
    (hread : ∀ d, Spells d → d.depth ≤ room → decode d = .ok x)
    (hrest : ∀ o, o = some x ∨ o = none ∧ IsDefault → Gathers room fs es (put s o) P) :
    Gathers room (Slot.of name mayEnd get put decode :: fs)
      (.defaulted name Spells IsDefault :: es) s P := by
  refine ⟨by simp [Slot.of, hget], ?_, ?_⟩
  · intro d hd hdepth
    have htake : (Slot.of name mayEnd get put decode).take d s = .ok (put s (some x)) := by
      simp [Slot.of, hread d hd hdepth, Except.map]
    exact ⟨put s (some x), htake, hrest _ (.inl rfl)⟩
  · intro hlack
    have hnone := hrest none (.inr ⟨rfl, hlack⟩)
    rwa [hput] at hnone

theorem Gathers.required {get : σ → Option α} {put : σ → Option α → σ}
    {decode : Draft → Except Error α} {Spells : Draft → Prop} {x : α} (hget : get s = none)
    (hread : ∀ d, Spells d → d.depth ≤ room → decode d = .ok x)
    (hrest : Gathers room fs es (put s (some x)) P) :
    Gathers room (Slot.of name mayEnd get put decode :: fs) (.required name Spells :: es) s P := by
  refine ⟨by simp [Slot.of, hget], ?_, False.elim⟩
  intro d hd hdepth
  refine ⟨put s (some x), ?_, hrest⟩
  simp [Slot.of, hread d hd hdepth, Except.map]

/-- Whether it is null or left out, an absent value is read as absent. -/
theorem Gathers.optional {get : σ → Option (Option α)} {put : σ → Option (Option α) → σ}
    {decode : Draft → Except Error α} {Spells : α → Draft → Prop} {o : Option α}
    (hget : get s = none) (hput : put s none = s)
    (hread : ∀ x, o = some x → ∀ d, Spells x d → d.depth ≤ room → d ≠ .null ∧ decode d = .ok x)
    (hrest : ∀ p : Option (Option α), p.join = o → Gathers room fs es (put s p) P) :
    Gathers room (Slot.of name mayEnd get put (Draft.optional decode) :: fs)
      (.optional name Spells o :: es) s P := by
  have hdecode (d : Draft) (hd : o.elim (d = .null) (Spells · d)) (hdepth : d.depth ≤ room) :
      Draft.optional decode d = .ok o := by
    cases o with
    | none =>
      cases hd
      rfl
    | some x =>
      obtain ⟨hnull, hx⟩ := hread x rfl d hd hdepth
      exact Draft.optional_of_ok hnull hx
  apply Gathers.defaulted hget hput hdecode
  intro p hp
  rcases hp with rfl | ⟨rfl, habsent⟩
  · exact hrest (some o) rfl
  · exact hrest none habsent.symm

end Fields

/-- All fields in their own order, as the items of an array. -/
theorem Gathers.takeItems {source : Source} {title : String} {count index room : Nat}
    {fs : List (Slot σ)} {es : List Entry} {s : σ} {P : σ → Prop} (h : Gathers room fs es s P)
    {ds : List Draft} (hds : List.Forall₂ Entry.Spells es ds) (hdepth : ∀ d ∈ ds, d.depth ≤ room) :
    ∃ t, Json.takeItems source title count none index fs ds s = .ok t ∧ P t := by
  induction fs generalizing es s ds index with
  | nil =>
    cases hds with
    | nil =>
      refine ⟨s, ?_, h⟩
      rw [Json.takeItems]
      cases source <;> rfl
    | cons _ _ => cases h
  | cons f fs ih =>
    cases hds with
    | nil => cases h
    | @cons e d es ds hd hds =>
      obtain ⟨-, hgiven, -⟩ := h
      obtain ⟨u, hu, hrest⟩ := hgiven d hd (hdepth d (by simp))
      obtain ⟨t, ht, hp⟩ := ih hrest hds fun c hc => hdepth c (by simp [hc])
      exact ⟨t, by rw [Json.takeItems, hu, ok_bind, ht], hp⟩

/-- Some of the fields in their own order, as the members of an object. -/
theorem Gathers.takeMembers (hf : Separate fields) {room : Nat} {fs : List (Slot σ)}
    {es : List Entry} {s : σ} {P : σ → Prop} (h : Gathers room fs es s P)
    (hfs : ∀ f ∈ fs, f ∈ fields) (hnames : fs.map Slot.name = es.map Entry.name)
    {ms : List (Except SyntaxError String × Draft)} (hms : Present es ms)
    (hdepth : ∀ m ∈ ms, m.2.depth ≤ room) :
    ∃ t, Json.takeMembers fields ms s = .ok t ∧ P t := by
  -- `fs` are the fields still to come, while members are looked up among all fields
  induction hms generalizing fs s with
  | nil =>
    cases fs with
    | nil => exact ⟨s, rfl, h⟩
    | cons f fs => cases h
  | @given e es d ms hd _ ih =>
    cases fs with
    | nil => cases h
    | cons f fs =>
      obtain ⟨hname, hnames⟩ := List.cons.inj hnames
      obtain ⟨hnew, hgiven, -⟩ := h
      obtain ⟨u, hu, hrest⟩ := hgiven d hd (hdepth _ (List.mem_cons_self))
      obtain ⟨t, ht, hp⟩ := ih hrest (fun g hg => hfs g (by simp [hg])) hnames
        fun m hm => hdepth m (by simp [hm])
      have hfind := hf.find (hfs f (by simp))
      rw [hname] at hfind
      exact ⟨t, takeMembers_cons_iff.mpr ⟨u, ⟨e.name, rfl, .inr ⟨f, hfind, hnew, hu⟩⟩, ht⟩, hp⟩
  | lacking he _ ih =>
    cases fs with
    | nil => cases h
    | cons f fs =>
      obtain ⟨-, hnames⟩ := List.cons.inj hnames
      obtain ⟨-, -, hlack⟩ := h
      exact ih (hlack he) (fun g hg => hfs g (by simp [hg])) hnames hdepth

theorem Draft.Whole.skip {d : Draft} (h : d.Whole) : d.skip = .ok () := by
  cases h <;> rfl

/-- Unknown members change nothing. -/
theorem takeMembers_unknown {entries : List Entry}
    (hnames : fields.map Slot.name = entries.map Entry.name)
    {ms : List (Except SyntaxError String × Draft)} (h : ∀ m ∈ ms, Unknown entries m) (s : σ) :
    takeMembers fields ms s = .ok s := by
  induction ms with
  | nil => rfl
  | cons m ms ih =>
    obtain ⟨k, hk, hunknown, haccepted⟩ := h m (by simp)
    have hnone : fields.find? (·.name = k) = none := by
      rw [List.find?_eq_none]
      intro f hf hname
      have hmem : f.name ∈ entries.map Entry.name := by
        rw [← hnames]
        exact List.mem_map_of_mem hf
      obtain ⟨e, he, hsame⟩ := List.mem_map.mp hmem
      exact hunknown e he (by simpa [hsame] using hname)
    have hskip := (Draft.accepted_iff_whole.mp haccepted).skip
    exact takeMembers_cons_iff.mpr
      ⟨s, ⟨k, hk, .inl ⟨hnone, hskip, rfl⟩⟩, ih fun n hn => h n (by simp [hn])⟩

/-- All spellings of a record are gathered alike. -/
theorem RecordSpelling.record {source : Source} {title : String} {fields : Nat → List (Slot σ)}
    {entries : List Entry} {empty : σ} {P : σ → Prop} {room : Nat} {d : Draft}
    (h : RecordSpelling entries d) (hdepth : d.depth ≤ room + 1) (hf : Separate (fields room))
    (hnames : (fields room).map Slot.name = entries.map Entry.name)
    (hgathers : Gathers room (fields room) entries empty P) :
    ∃ s, d.record source title fields empty (room + 1) = .ok s ∧ P s := by
  cases h with
  | @object known unknown ms hknown hunknown order =>
    obtain ⟨_, ⟨⟩, hleft⟩ := Draft.depth_object_le.mp hdepth
    have hin : ∀ m ∈ known, m.2.depth ≤ room := fun m hm =>
      hleft m (order.mem_iff.mpr (List.mem_append_left _ hm))
    obtain ⟨s, hs, hp⟩ := hgathers.takeMembers hf (fun f hfm => hfm) hnames hknown hin
    have htake : takeMembers (fields room) ms empty = .ok s :=
      takeMembers_perm hf order.symm
        (takeMembers_append_iff.mpr ⟨s, hs, takeMembers_unknown hnames hunknown s⟩)
    exact ⟨s, by rw [Draft.record, htake]; rfl, hp⟩
  | array each =>
    obtain ⟨_, ⟨⟩, hleft⟩ := Draft.depth_array_le.mp hdepth
    obtain ⟨s, hs, hp⟩ := hgathers.takeItems each hleft
    exact ⟨s, hs, hp⟩

/-- A tag is found wherever it stands, and the other members keep their order. -/
theorem takeTag_append {source : Source} {tag : String} {names : List String} {room : Nat}
    {ms ns : List (Except SyntaxError String × Draft)} {found found' : Option String}
    {rest : List (Except SyntaxError String × Draft)}
    (hms : ∀ m ∈ ms, (∃ k, m.1 = .ok k ∧ k ≠ tag) ∧ m.2.hold source room = .ok ())
    (h : takeTag source tag names room ns found = .ok (found', rest)) :
    takeTag source tag names room (ms ++ ns) found = .ok (found', ms ++ rest) := by
  induction ms with
  | nil => exact h
  | cons m ms ih =>
    obtain ⟨key, d⟩ := m
    obtain ⟨⟨k, rfl, hk⟩, hhold⟩ := hms (key, d) (by simp)
    have hrest := ih fun n hn => hms n (by simp [hn])
    simp [takeTag, hk, hhold, hrest]

theorem takeTag_here {source : Source} {tag name : String} {names : List String} {room : Nat}
    {ms : List (Except SyntaxError String × Draft)} (hname : name ∈ names)
    (hms : ∀ m ∈ ms, (∃ k, m.1 = .ok k ∧ k ≠ tag) ∧ m.2.hold source room = .ok ()) :
    takeTag source tag names room ((.ok tag, .string (.ok name)) :: ms) none =
      .ok (some name, ms) := by
  have hchoice : Draft.choiceName source names (.string (.ok name)) = .ok name := by
    cases source <;> simp [Draft.choiceName, hname]
  have hrest : takeTag source tag names room (ms ++ []) (some name) = .ok (some name, ms ++ []) :=
    takeTag_append hms rfl
  rw [List.append_nil] at hrest
  simp [takeTag, hchoice, hrest]

theorem Draft.Whole.hold {d : Draft} (hd : d.Whole) {room : Nat} (h : d.depth ≤ room)
    (source : Source) : d.hold source room = .ok () := by
  cases source with
  | held => rfl
  | text =>
    obtain ⟨v, hv⟩ := hd.toJson h
    simp [Draft.hold, Draft.check, hv, Except.map]

theorem holdAll {source : Source} {room : Nat} {ds : List Draft}
    (h : ∀ d ∈ ds, d.hold source room = .ok ()) : ds.forM (Draft.hold source room) = .ok () := by
  induction ds with
  | nil => rfl
  | cons d ds ih =>
    rw [List.forM, h d (by simp), ok_bind]
    exact ih fun c hc => h c (by simp [hc])

/-- The tag stands among the members once, and the others spell the record without it. -/
theorem RecordSpelling.exists_tag {name : String} {entries : List Entry}
    {ms : List (Except SyntaxError String × Draft)}
    (h : RecordSpelling (.tag name :: entries) (.object ms none))
    (htag : ∀ e ∈ entries, e.name ≠ "type") :
    ∃ before after, ms = before ++ (.ok "type", .string (.ok name)) :: after ∧
      RecordSpelling entries (.object (before ++ after) none) ∧
      ∀ m ∈ before ++ after, ∃ k, m.1 = .ok k ∧ k ≠ "type" := by
  cases h with
  | @object known unknown _ hknown hunknown order =>
    cases hknown with
    | lacking he => cases he
    | @given _ _ c known hc hknown =>
      cases hc
      have htagged : (.ok "type", .string (.ok name)) ∈ ms := order.mem_iff.mpr List.mem_cons_self
      obtain ⟨before, after, rfl⟩ := List.append_of_mem htagged
      have hothers : (before ++ after).Perm (known ++ unknown) :=
        (List.perm_middle.symm.trans order).cons_inv
      refine ⟨before, after, rfl, .object hknown ?_ hothers, ?_⟩
      · intro m hm
        obtain ⟨k, hkey, hnew, haccepted⟩ := hunknown m hm
        exact ⟨k, hkey, fun e he => hnew e (by simp [he]), haccepted⟩
      · intro m hm
        rcases List.mem_append.mp (hothers.mem_iff.mp hm) with hm | hm
        · obtain ⟨e, he, hkey, -⟩ := hknown.mem hm
          exact ⟨e.name, hkey, htag e he⟩
        · obtain ⟨k, hkey, hnew, -⟩ := hunknown m hm
          have hne : "type" ≠ k := hnew (.tag name) (by simp)
          exact ⟨k, hkey, hne.symm⟩

theorem Draft.tagged_object {source : Source} {title tag name : String} {names : List String}
    {room : Nat} {before after : List (Except SyntaxError String × Draft)} (hname : name ∈ names)
    (hkeys : ∀ m ∈ before ++ after, ∃ k, m.1 = .ok k ∧ k ≠ tag)
    (hheld : ∀ m ∈ before ++ after, m.2.hold source room = .ok ()) :
    Draft.tagged source title tag names (room + 1)
        (.object (before ++ (.ok tag, .string (.ok name)) :: after) none) =
      .ok (name, .object (before ++ after) none) := by
  have hafter : takeTag source tag names room ((.ok tag, .string (.ok name)) :: after) none =
      .ok (some name, after) :=
    takeTag_here hname fun m hm =>
      ⟨hkeys m (List.mem_append_right _ hm), hheld m (List.mem_append_right _ hm)⟩
  have htake := takeTag_append (fun m hm =>
    ⟨hkeys m (List.mem_append_left _ hm), hheld m (List.mem_append_left _ hm)⟩) hafter
  rw [Draft.tagged, htake]
  rfl

theorem Draft.tagged_array {source : Source} {title tag name : String} {names : List String}
    {room : Nat} {ds : List Draft} (hname : name ∈ names)
    (hheld : ∀ d ∈ ds, d.hold source room = .ok ()) :
    Draft.tagged source title tag names (room + 1) (.array (.string (.ok name) :: ds) none) =
      .ok (name, .array ds none) := by
  have hchoice : Draft.choiceName source names (.string (.ok name)) = .ok name := by
    cases source <;> simp [Draft.choiceName, hname]
  rw [Draft.tagged, hchoice, ok_bind, holdAll hheld]
  rfl

/-- A choice is told by its tag in every spelling, and what is held back is a record of its other
fields. -/
theorem RecordSpelling.tagged {source : Source} {title name : String} {names : List String}
    {entries : List Entry} {room : Nat} {d : Draft} (h : RecordSpelling (.tag name :: entries) d)
    (hname : name ∈ names) (htag : ∀ e ∈ entries, e.name ≠ "type")
    (hes : ∀ e ∈ entries, e.Intact) (hdepth : d.depth ≤ room + 1) :
    ∃ rest, d.tagged source title "type" names (room + 1) = .ok (name, rest) ∧
      RecordSpelling entries rest ∧ rest.depth ≤ room + 1 := by
  cases h with
  | @object known unknown ms hknown hunknown order =>
    obtain ⟨before, after, rfl, hrest, hkeys⟩ :=
      (RecordSpelling.object hknown hunknown order).exists_tag htag
    obtain ⟨_, ⟨⟩, hleft⟩ := Draft.depth_object_le.mp hdepth
    have hroom (m) (hm : m ∈ before ++ after) : m.2.depth ≤ room := by
      apply hleft
      rcases List.mem_append.mp hm with hm | hm
      · simp [hm]
      · simp [hm]
    cases hrest.whole hes with
    | object _ each =>
      have hheld (m) (hm : m ∈ before ++ after) : m.2.hold source room = .ok () :=
        (each m hm).hold (hroom m hm) source
      exact ⟨_, Draft.tagged_object hname hkeys hheld, hrest,
        Draft.depth_object_le.mpr ⟨room, rfl, hroom⟩⟩
  | @array ds each =>
    cases each with
    | @cons _ c _ ds hc each =>
      cases hc
      obtain ⟨_, ⟨⟩, hleft⟩ := Draft.depth_array_le.mp hdepth
      have hrest : RecordSpelling entries (.array ds none) := .array each
      have hroom (d) (hd : d ∈ ds) : d.depth ≤ room := hleft d (List.mem_cons_of_mem _ hd)
      cases hrest.whole hes with
      | array each =>
        have hheld (d) (hd : d ∈ ds) : d.hold source room = .ok () :=
          (each d hd).hold (hroom d hd) source
        exact ⟨_, Draft.tagged_array hname hheld, hrest,
          Draft.depth_array_le.mpr ⟨room, rfl, hroom⟩⟩

end ResourceQuery.Json
