import Mathlib
import ResourceQuery.Json.Basic

namespace ResourceQuery.Json

/-- Each key is greater than those in front of it, so that no key comes twice. -/
def KeyOrdered (ms : List (String × Json)) : Prop :=
  ms.Pairwise fun m n => m.1 < n.1

theorem mem_insert {key : String} {value : Json} {m : String × Json} {ms : List (String × Json)}
    (h : m ∈ insert key value ms) : m = (key, value) ∨ m ∈ ms := by
  induction ms with
  | nil => exact .inl (List.mem_singleton.mp h)
  | cons n ms ih =>
    rw [insert] at h
    split at h
    · rcases List.mem_cons.mp h with rfl | h
      · exact .inl rfl
      · exact .inr (List.mem_cons_of_mem n h)
    · split at h
      · exact List.mem_cons.mp h
      · rcases List.mem_cons.mp h with rfl | h
        · exact .inr List.mem_cons_self
        · exact (ih h).imp_right (List.mem_cons_of_mem n)

theorem KeyOrdered.insert {ms : List (String × Json)} (h : KeyOrdered ms) (key : String)
    (value : Json) : KeyOrdered (insert key value ms) := by
  induction ms with
  | nil => exact List.pairwise_singleton _ _
  | cons n ms ih =>
    obtain ⟨hn, hms⟩ := List.pairwise_cons.mp h
    rw [Json.insert]
    split
    next heq => exact List.pairwise_cons.mpr ⟨heq ▸ hn, hms⟩
    next hne =>
      split
      next hlt =>
        refine List.pairwise_cons.mpr ⟨List.forall_mem_cons.mpr ⟨hlt, ?_⟩, h⟩
        exact fun m hm => hlt.trans (hn m hm)
      next hge =>
        refine List.pairwise_cons.mpr ⟨?_, ih hms⟩
        intro m hm
        rcases mem_insert hm with rfl | hm
        · exact lt_of_le_of_ne (not_lt.mp hge) (Ne.symm hne)
        · exact hn m hm

theorem lookup_member (k : String) (m : String × Json) (ms : List (String × Json)) :
    (m :: ms).lookup k = if k = m.1 then some m.2 else ms.lookup k := by
  rw [List.lookup_cons]
  by_cases hk : k = m.1
  · rw [if_pos hk, beq_iff_eq.mpr hk]
  · rw [if_neg hk, beq_eq_false_iff_ne.mpr hk]

/-- Adding a member changes what stands under its key and nothing else. -/
theorem lookup_insert (key k : String) (value : Json) (ms : List (String × Json)) :
    (insert key value ms).lookup k = if k = key then some value else ms.lookup k := by
  induction ms with
  | nil => exact lookup_member k (key, value) []
  | cons n ms ih =>
    rw [insert]
    split
    next heq =>
      rw [lookup_member, lookup_member, heq]
      split <;> rfl
    next hne =>
      split
      next => rw [lookup_member]
      next =>
        rw [lookup_member, lookup_member, ih]
        by_cases hk : k = n.1
        · rw [if_pos hk, if_pos hk, if_neg (hk ▸ Ne.symm hne)]
        · rw [if_neg hk, if_neg hk]

theorem sorted_append_singleton (ms : List (String × Json)) (m : String × Json) :
    sorted (ms ++ [m]) = insert m.1 m.2 (sorted ms) := by
  rw [sorted, List.foldl_append]
  rfl

theorem keyOrdered_sorted (ms : List (String × Json)) : KeyOrdered (sorted ms) := by
  induction ms using List.reverseRecOn with
  | nil => exact List.Pairwise.nil
  | append_singleton ms m ih =>
    rw [sorted_append_singleton]
    exact ih.insert m.1 m.2

/-- Of the members of one key the last is left. -/
theorem lookup_sorted (ms : List (String × Json)) (k : String) :
    (sorted ms).lookup k = ms.reverse.lookup k := by
  induction ms using List.reverseRecOn with
  | nil => rfl
  | append_singleton ms m ih =>
    rw [sorted_append_singleton, lookup_insert, ih, List.reverse_append, List.reverse_singleton,
      List.singleton_append, lookup_member]

theorem insert_last {ms : List (String × Json)} {key : String} (h : ∀ m ∈ ms, m.1 < key)
    (value : Json) : insert key value ms = ms ++ [(key, value)] := by
  induction ms with
  | nil => rfl
  | cons n ms ih =>
    have hn : n.1 < key := h n List.mem_cons_self
    rw [insert, if_neg hn.ne', if_neg hn.not_gt, ih fun m hm => h m (List.mem_cons_of_mem n hm)]
    rfl

/-- Members in key order stay as they are. -/
theorem KeyOrdered.sorted_eq {ms : List (String × Json)} (h : KeyOrdered ms) : sorted ms = ms := by
  induction ms using List.reverseRecOn with
  | nil => rfl
  | append_singleton ms m ih =>
    obtain ⟨hms, -, hlast⟩ := List.pairwise_append.mp h
    rw [sorted_append_singleton, ih hms, insert_last fun n hn => hlast n hn m (by simp)]

theorem KeyOrdered.mem_iff {ms : List (String × Json)} (h : KeyOrdered ms) (m : String × Json) :
    m ∈ ms ↔ ms.lookup m.1 = some m.2 := by
  induction ms with
  | nil => simp
  | cons n ms ih =>
    obtain ⟨hn, hms⟩ := List.pairwise_cons.mp h
    rw [List.mem_cons, ih hms, lookup_member]
    split
    next hk =>
      have habsent : ms.lookup m.1 ≠ some m.2 := fun hm =>
        (hn m ((ih hms).mpr hm)).ne hk.symm
      rw [or_iff_left habsent, Prod.ext_iff, and_iff_right hk, Option.some.injEq, eq_comm]
    next hk =>
      have hne : m ≠ n := fun heq => hk (congrArg Prod.fst heq)
      simp [hne]

theorem KeyOrdered.lookup_reverse {ms : List (String × Json)} (h : KeyOrdered ms) (k : String) :
    ms.reverse.lookup k = ms.lookup k := by
  rw [← lookup_sorted, h.sorted_eq]

theorem mem_of_lookup {ms : List (String × Json)} {k : String} {v : Json}
    (h : ms.lookup k = some v) : (k, v) ∈ ms := by
  obtain ⟨before, after, rfl, -⟩ := List.lookup_eq_some_iff.mp h
  simp

/-- Members in key order are told by what stands under each key. -/
theorem KeyOrdered.eq_of_lookup {ms ns : List (String × Json)} (hms : KeyOrdered ms)
    (hns : KeyOrdered ns) (h : ∀ k, ms.lookup k = ns.lookup k) : ms = ns := by
  apply List.Pairwise.eq_of_mem_iff hms hns
  intro m
  rw [hms.mem_iff, hns.mem_iff, h]

end ResourceQuery.Json
