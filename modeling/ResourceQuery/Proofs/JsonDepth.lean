import ResourceQuery.Proofs.JsonWriting
import ResourceQuery.Proofs.Results

namespace ResourceQuery.Json

mutual

/-- The number of containers that are open at once at the deepest place. -/
def Draft.depth : Draft → Nat
  | .array items _ => itemsDepth items + 1
  | .object members _ => membersDepth members + 1
  | .fault .. => 0
  | .null => 0
  | .bool _ => 0
  | .number _ => 0
  | .string _ => 0

def itemsDepth : List Draft → Nat
  | [] => 0
  | d :: ds => max d.depth (itemsDepth ds)

def membersDepth : List (Except SyntaxError String × Draft) → Nat
  | [] => 0
  | (_, d) :: ms => max d.depth (membersDepth ms)

end

def depth (v : Json) : Nat :=
  v.draft.depth

theorem itemsDepth_le {ds : List Draft} {room : Nat} :
    itemsDepth ds ≤ room ↔ ∀ d ∈ ds, d.depth ≤ room := by
  induction ds with
  | nil => simp [itemsDepth]
  | cons d ds ih => rw [itemsDepth, Nat.max_le, ih, List.forall_mem_cons]

theorem membersDepth_le {ms : List (Except SyntaxError String × Draft)} {room : Nat} :
    membersDepth ms ≤ room ↔ ∀ m ∈ ms, m.2.depth ≤ room := by
  induction ms with
  | nil => simp [membersDepth]
  | cons m ms ih => rw [membersDepth, Nat.max_le, ih, List.forall_mem_cons]

namespace Draft

/-- An array needs room for itself, and what is left has to do for each item. -/
theorem depth_array_le {ds : List Draft} {broken : Option Fault} {room : Nat} :
    (Draft.array ds broken).depth ≤ room ↔
      ∃ left, room = left + 1 ∧ ∀ d ∈ ds, d.depth ≤ left := by
  simp only [depth, ← itemsDepth_le]
  constructor
  · intro h
    exact ⟨room - 1, by omega, by omega⟩
  · intro ⟨left, hroom, hleft⟩
    omega

theorem depth_object_le {ms : List (Except SyntaxError String × Draft)} {broken : Option Fault}
    {room : Nat} :
    (Draft.object ms broken).depth ≤ room ↔
      ∃ left, room = left + 1 ∧ ∀ m ∈ ms, m.2.depth ≤ left := by
  simp only [depth, ← membersDepth_le]
  constructor
  · intro h
    exact ⟨room - 1, by omega, by omega⟩
  · intro ⟨left, hroom, hleft⟩
    omega

/-- No fault anywhere inside. -/
inductive Whole : Draft → Prop where
  | null : Whole .null
  | bool (b : Bool) : Whole (.bool b)
  | number (n : Numeral) : Whole (.number (.ok n))
  | string (s : String) : Whole (.string (.ok s))
  | array {ds : List Draft} (each : ∀ d ∈ ds, Whole d) : Whole (.array ds none)
  | object {ms : List (Except SyntaxError String × Draft)} (keys : ∀ m ∈ ms, ∃ k, m.1 = .ok k)
      (each : ∀ m ∈ ms, Whole m.2) : Whole (.object ms none)

/-- What has no fault is read whole, with room for its depth. -/
theorem Whole.toJson {d : Draft} (hd : d.Whole) {room : Nat} (h : d.depth ≤ room) :
    ∃ v, d.toJson room = .ok v := by
  induction hd generalizing room with
  | null => exact ⟨.null, by rw [Draft.toJson]⟩
  | bool b => exact ⟨.bool b, by rw [Draft.toJson]⟩
  | number n => exact ⟨.number n, by rw [Draft.toJson]; rfl⟩
  | string s => exact ⟨.string s, by rw [Draft.toJson]; rfl⟩
  | array each ih =>
    obtain ⟨left, rfl, hleft⟩ := depth_array_le.mp h
    rw [Draft.toJson]
    refine bind_succeeds (mapM_succeeds_iff.mpr ?_) fun vs => ⟨.array vs, rfl⟩
    exact fun d hd => ih d hd (hleft d hd)
  | object keys each ih =>
    obtain ⟨left, rfl, hleft⟩ := depth_object_le.mp h
    rw [Draft.toJson]
    refine bind_succeeds (mapM_succeeds_iff.mpr ?_) fun ms => ⟨.object (sorted ms), rfl⟩
    intro m hm
    obtain ⟨k, hk⟩ := keys m hm
    obtain ⟨v, hv⟩ := ih m hm (hleft m hm)
    exact ⟨(k, v), by simp [hk, hv]⟩

/-- The value can be read for its own sake, within some room. -/
def Accepted (d : Draft) : Prop :=
  ∃ room v, d.toJson room = .ok v

theorem eq_none_of_intact {broken : Option Fault} {u : Unit} (h : intact broken = .ok u) :
    broken = none := by
  cases broken with
  | none => rfl
  | some f => cases h

end Draft

@[simp]
theorem depth_string (s : String) : (Json.string s).depth = 0 := rfl

@[simp]
theorem depth_bool (b : Bool) : (Json.bool b).depth = 0 := rfl

@[simp]
theorem depth_nat (n : Nat) : (Json.nat n).depth = 0 := rfl

theorem depth_array_le {vs : List Json} {room : Nat} :
    (Json.array vs).depth ≤ room ↔ ∃ left, room = left + 1 ∧ ∀ v ∈ vs, v.depth ≤ left := by
  simp only [depth, draft, Draft.depth_array_le, itemDrafts_eq_map, List.forall_mem_map]

theorem depth_object_le {ms : List (String × Json)} {room : Nat} :
    (Json.object ms).depth ≤ room ↔ ∃ left, room = left + 1 ∧ ∀ m ∈ ms, m.2.depth ≤ left := by
  simp only [depth, draft, Draft.depth_object_le, memberDrafts_eq_map, List.forall_mem_map]

end ResourceQuery.Json
