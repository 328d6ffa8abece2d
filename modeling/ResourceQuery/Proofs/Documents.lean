import ResourceQuery.Proofs.JsonDepth
import ResourceQuery.Proofs.KeyOrder

namespace ResourceQuery.Json

/-- What the text of a value may look like; members of an object can come in any order, and all but
the last of one key count for nothing. -/
inductive Stands : Draft → Json → Prop where
  | null : Stands .null .null
  | bool (b : Bool) : Stands (.bool b) (.bool b)
  | number (n : Numeral) : Stands (.number (.ok n)) (.number n)
  | string (s : String) : Stands (.string (.ok s)) (.string s)
  | array {ds : List Draft} {vs : List Json} (length : ds.length = vs.length)
      (each : ∀ p ∈ ds.zip vs, Stands p.1 p.2) : Stands (.array ds none) (.array vs)
  | object {ms : List (Except SyntaxError String × Draft)} {ns vs : List (String × Json)}
      (keys : ms.map Prod.fst = ns.map fun n => .ok n.1)
      (each : ∀ p ∈ ms.zip ns, Stands p.1.2 p.2.2) (ordered : KeyOrdered vs)
      (last : ∀ k, vs.lookup k = ns.reverse.lookup k) : Stands (.object ms none) (.object vs)

/-- All objects in the value have their members in key order. -/
inductive Ordered : Json → Prop where
  | null : Ordered .null
  | bool (b : Bool) : Ordered (.bool b)
  | number (n : Numeral) : Ordered (.number n)
  | string (s : String) : Ordered (.string s)
  | array {vs : List Json} (each : ∀ v ∈ vs, Ordered v) : Ordered (.array vs)
  | object {ms : List (String × Json)} (ordered : KeyOrdered ms)
      (each : ∀ m ∈ ms, Ordered m.2) : Ordered (.object ms)

theorem forall₂_members_iff {ms : List (Except SyntaxError String × Draft)}
    {ns : List (String × Json)} {R : Draft → Json → Prop} :
    List.Forall₂ (fun m n => m.1 = .ok n.1 ∧ R m.2 n.2) ms ns ↔
      ms.map Prod.fst = ns.map (fun n => .ok n.1) ∧ ∀ p ∈ ms.zip ns, R p.1.2 p.2.2 := by
  induction ms generalizing ns with
  | nil => cases ns <;> simp
  | cons m ms ih =>
    cases ns with
    | nil => simp
    | cons n ns =>
      simp only [List.forall₂_cons, ih, List.map_cons, List.cons.injEq, List.zip_cons_cons,
        List.forall_mem_cons]
      tauto

/-- A member is read as its key and its value. -/
theorem member_ok_iff {room : Nat} {m : Except SyntaxError String × Draft} {n : String × Json} :
    (do return (← m.1, ← m.2.toJson room) : Except SyntaxError (String × Json)) = .ok n ↔
      m.1 = .ok n.1 ∧ m.2.toJson room = .ok n.2 := by
  simp only [bind_ok_iff, pure_eq_ok, Except.ok.injEq]
  constructor
  · rintro ⟨k, hk, v, hv, rfl⟩
    exact ⟨hk, hv⟩
  · rintro ⟨hk, hv⟩
    exact ⟨n.1, hk, n.2, hv, rfl⟩

theorem stands_of_toJson {room : Nat} {d : Draft} {v : Json} (h : d.toJson room = .ok v) :
    Stands d v ∧ d.depth ≤ room := by
  induction room using Nat.strongRecOn generalizing d v with
  | ind room ih =>
    cases d with
    | fault begun f => cases room <;> cases h
    | null =>
      rw [Draft.toJson] at h
      cases h
      exact ⟨.null, Nat.zero_le _⟩
    | bool b =>
      rw [Draft.toJson] at h
      cases h
      exact ⟨.bool b, Nat.zero_le _⟩
    | number n =>
      rw [Draft.toJson] at h
      obtain ⟨n, rfl, rfl⟩ := map_ok_iff.mp h
      exact ⟨.number n, Nat.zero_le _⟩
    | string s =>
      rw [Draft.toJson] at h
      obtain ⟨s, rfl, rfl⟩ := map_ok_iff.mp h
      exact ⟨.string s, Nat.zero_le _⟩
    | array ds broken =>
      obtain _ | left := room
      · cases h
      obtain ⟨vs, hvs, h⟩ := bind_ok_iff.mp h
      obtain ⟨_, hbroken, h⟩ := bind_ok_iff.mp h
      cases h
      cases Draft.eq_none_of_intact hbroken
      have heach := (mapM_ok_iff.mp hvs).imp fun _ _ => ih left (Nat.lt_succ_self left)
      obtain ⟨hlength, hstands⟩ := forall₂_zip_iff.mp (heach.imp fun _ _ => And.left)
      refine ⟨.array hlength hstands, Draft.depth_array_le.mpr ⟨left, rfl, ?_⟩⟩
      intro d hd
      obtain ⟨v, -, -, hdepth⟩ := exists_right_of_forall₂ heach hd
      exact hdepth
    | object ms broken =>
      obtain _ | left := room
      · cases h
      obtain ⟨ns, hns, h⟩ := bind_ok_iff.mp h
      obtain ⟨_, hbroken, h⟩ := bind_ok_iff.mp h
      cases h
      cases Draft.eq_none_of_intact hbroken
      have heach : List.Forall₂ (fun m n => m.1 = .ok n.1 ∧ Stands m.2 n.2 ∧ m.2.depth ≤ left)
          ms ns := by
        refine (mapM_ok_iff.mp hns).imp fun m n hmember => ?_
        obtain ⟨hkey, hvalue⟩ := member_ok_iff.mp hmember
        exact ⟨hkey, ih left (Nat.lt_succ_self left) hvalue⟩
      obtain ⟨hkeys, hstands⟩ := forall₂_members_iff.mp
        (heach.imp fun _ _ hm => ⟨hm.1, hm.2.1⟩)
      refine ⟨.object hkeys hstands (keyOrdered_sorted ns) (lookup_sorted ns),
        Draft.depth_object_le.mpr ⟨left, rfl, ?_⟩⟩
      intro m hm
      obtain ⟨n, -, -, -, hdepth⟩ := exists_right_of_forall₂ heach hm
      exact hdepth

theorem Stands.toJson {d : Draft} {v : Json} (h : Stands d v) {room : Nat}
    (hroom : d.depth ≤ room) : d.toJson room = .ok v := by
  induction h generalizing room with
  | null | bool | number | string => rw [Draft.toJson] <;> rfl
  | @array ds vs length each ih =>
    obtain ⟨left, rfl, hleft⟩ := Draft.depth_array_le.mp hroom
    have hvs : ds.mapM (Draft.toJson left) = .ok vs := by
      refine mapM_ok_iff.mpr (forall₂_zip_iff.mpr ⟨length, ?_⟩)
      exact fun p hp => ih p hp (hleft p.1 (List.of_mem_zip hp).1)
    rw [Draft.toJson, hvs]
    rfl
  | @object ms ns vs keys each ordered last ih =>
    obtain ⟨left, rfl, hleft⟩ := Draft.depth_object_le.mp hroom
    have heach := forall₂_members_iff (R := fun d v => d.toJson left = .ok v).mpr
      ⟨keys, fun p hp => ih p hp (hleft p.1 (List.of_mem_zip hp).1)⟩
    have hns := mapM_ok_iff.mpr (heach.imp fun _ _ => member_ok_iff.mpr)
    have hvs : sorted ns = vs :=
      (keyOrdered_sorted ns).eq_of_lookup ordered fun k => (lookup_sorted ns k).trans (last k).symm
    rw [← hvs, Draft.toJson]
    exact bind_ok_iff.mpr ⟨ns, hns, rfl⟩

/-- A value is read from what stands for it, with room for the draft, and from nothing else. -/
theorem toJson_iff {room : Nat} {d : Draft} {v : Json} :
    d.toJson room = .ok v ↔ Stands d v ∧ d.depth ≤ room :=
  ⟨stands_of_toJson, fun h => h.1.toJson h.2⟩

theorem Stands.whole {d : Draft} {v : Json} (h : Stands d v) : d.Whole := by
  induction h with
  | null => exact .null
  | bool b => exact .bool b
  | number n => exact .number n
  | string s => exact .string s
  | array length each ih =>
    refine .array fun d hd => ?_
    have hwhole := forall₂_zip_iff (R := fun d _ => d.Whole).mpr ⟨length, ih⟩
    obtain ⟨v, -, hd⟩ := exists_right_of_forall₂ hwhole hd
    exact hd
  | object keys each ordered last ih =>
    have hwhole := forall₂_members_iff (R := fun d _ => d.Whole).mpr ⟨keys, ih⟩
    refine .object (fun m hm => ?_) fun m hm => ?_
    · obtain ⟨n, -, hkey, -⟩ := exists_right_of_forall₂ hwhole hm
      exact ⟨n.1, hkey⟩
    · obtain ⟨n, -, -, hvalue⟩ := exists_right_of_forall₂ hwhole hm
      exact hvalue

theorem Draft.accepted_iff_whole {d : Draft} : d.Accepted ↔ d.Whole := by
  constructor
  · intro ⟨room, v, h⟩
    exact (stands_of_toJson h).1.whole
  · intro h
    exact ⟨d.depth, h.toJson (Nat.le_refl _)⟩

/-- What holds of all the members as they are written holds of those that count. -/
theorem forall_counted {P : Json → Prop} {ms : List (Except SyntaxError String × Draft)}
    {ns vs : List (String × Json)} (keys : ms.map Prod.fst = ns.map fun n => .ok n.1)
    (ordered : KeyOrdered vs) (last : ∀ k, vs.lookup k = ns.reverse.lookup k)
    (each : ∀ p ∈ ms.zip ns, P p.2.2) : ∀ v ∈ vs, P v.2 := by
  intro v hv
  rw [ordered.mem_iff, last] at hv
  have hwritten : v ∈ ns := List.mem_reverse.mp (mem_of_lookup hv)
  have hmembers := forall₂_members_iff (R := fun _ v => P v).mpr ⟨keys, each⟩
  obtain ⟨m, -, -, hp⟩ := exists_left_of_forall₂ hmembers hwritten
  exact hp

theorem Stands.ordered {d : Draft} {v : Json} (h : Stands d v) : v.Ordered := by
  induction h with
  | null => exact .null
  | bool b => exact .bool b
  | number n => exact .number n
  | string s => exact .string s
  | array length each ih =>
    refine .array fun v hv => ?_
    have hitems := forall₂_zip_iff (R := fun _ v => v.Ordered).mpr ⟨length, ih⟩
    obtain ⟨d, -, hv⟩ := exists_left_of_forall₂ hitems hv
    exact hv
  | object keys each ordered last ih =>
    exact .object ordered (forall_counted keys ordered last ih)

/-- Members that count for nothing may make a draft deeper than the value, and nothing makes it
shallower. -/
theorem Stands.depth_le {d : Draft} {v : Json} (h : Stands d v) : v.depth ≤ d.depth := by
  induction h with
  | null | bool | number | string => exact Nat.le_refl _
  | @array ds vs length each ih =>
    obtain ⟨left, hroom, hleft⟩ :=
      Draft.depth_array_le.mp (Nat.le_refl (Draft.array ds none).depth)
    refine depth_array_le.mpr ⟨left, hroom, fun v hv => ?_⟩
    have hitems := forall₂_zip_iff (R := fun d v => v.depth ≤ d.depth).mpr ⟨length, ih⟩
    obtain ⟨d, hd, hdepth⟩ := exists_left_of_forall₂ hitems hv
    exact hdepth.trans (hleft d hd)
  | @object ms ns vs keys each ordered last ih =>
    obtain ⟨left, hroom, hleft⟩ :=
      Draft.depth_object_le.mp (Nat.le_refl (Draft.object ms none).depth)
    refine depth_object_le.mpr ⟨left, hroom, ?_⟩
    refine forall_counted (P := fun v => v.depth ≤ left) keys ordered last fun p hp => ?_
    exact (ih p hp).trans (hleft p.1 (List.of_mem_zip hp).1)

/-- Where all members are in key order, the draft of the value stands for it. -/
theorem Ordered.stands {v : Json} (h : v.Ordered) : Stands v.draft v := by
  induction h with
  | null => exact .null
  | bool b => exact .bool b
  | number n => exact .number n
  | string s => exact .string s
  | @array vs each ih =>
    rw [draft, itemDrafts_eq_map]
    obtain ⟨hlength, heach⟩ := forall₂_zip_iff.mp
      (List.forall₂_map_left_iff.mpr (List.forall₂_same.mpr ih))
    exact .array hlength heach
  | @object ms ordered each ih =>
    rw [draft, memberDrafts_eq_map]
    have hmembers : List.Forall₂ (fun m n => m.1 = .ok n.1 ∧ Stands m.2 n.2)
        (ms.map fun m => ((.ok m.1 : Except SyntaxError String), m.2.draft)) ms :=
      List.forall₂_map_left_iff.mpr (List.forall₂_same.mpr fun m hm => ⟨rfl, ih m hm⟩)
    obtain ⟨hkeys, heach⟩ := forall₂_members_iff.mp hmembers
    exact .object hkeys heach ordered fun k => (ordered.lookup_reverse k).symm

end ResourceQuery.Json
