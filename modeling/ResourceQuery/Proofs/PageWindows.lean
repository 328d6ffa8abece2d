import ResourceQuery.Proofs.BodyForm
import ResourceQuery.Proofs.SearchAndCount

namespace ResourceQuery

/-- The position of the result list, counted from 0, is on the page. -/
def Pagination.Shows (p : Pagination) (n : Nat) : Prop :=
  ∃ offset limit, p.window = some (offset, limit) ∧ offset ≤ n ∧ n < offset + limit

/-- How the pages of one size, numbered from 1, lie in the result list. -/
structure PagesTile (size : UInt32) : Prop where
  first : Pagination.window ⟨some size, 1⟩ = some (0, size.toNat)
  next : ∀ number : UInt32, 1 ≤ number.toNat → number.toNat + 1 < 2 ^ 32 →
    ∃ offset, Pagination.window ⟨some size, number⟩ = some (offset, size.toNat) ∧
      Pagination.window ⟨some size, number + 1⟩ = some (offset + size.toNat, size.toNat)
  apart : ∀ p q : UInt32, 1 ≤ p.toNat → 1 ≤ q.toNat → p ≠ q → ∀ n,
    ¬ (Pagination.Shows ⟨some size, p⟩ n ∧ Pagination.Shows ⟨some size, q⟩ n)
  covered : ∀ n < size.toNat * (2 ^ 32 - 1),
    ∃! number : UInt32, 1 ≤ number.toNat ∧ Pagination.Shows ⟨some size, number⟩ n

/-- What a request and its body say of the page. -/
structure PageAsked (page : Option Pagination) (request : SearchRequest) : Prop where
  given : ∀ size number, page = some ⟨some size, number⟩ →
    request.start = some (size.toNat * (max number.toNat 1 - 1)) ∧
    request.size = some size.toNat ∧
    (request.body.member? "from").map Json.compact =
      some (toString (size.toNat * (max number.toNat 1 - 1))) ∧
    (request.body.member? "size").map Json.compact = some (toString size.toNat)
  absent : (∀ p ∈ page, p.pageSize = none) →
    request.start = none ∧ request.size = none ∧
    request.body.member? "from" = none ∧ request.body.member? "size" = none

theorem Pagination.window_of_size (size number : UInt32) :
    Pagination.window ⟨some size, number⟩ =
      some (size.toNat * (max number.toNat 1 - 1), size.toNat) := by
  rw [window_eq]
  rfl

/-- The page of a position is found by division. -/
theorem Pagination.shows_iff {size number : UInt32} (hsize : 1 ≤ size.toNat)
    (hnumber : 1 ≤ number.toNat) {n : Nat} :
    Pagination.Shows ⟨some size, number⟩ n ↔ number.toNat = n / size.toNat + 1 := by
  have hdiv : n / size.toNat = number.toNat - 1 ↔
      (number.toNat - 1) * size.toNat ≤ n ∧ n ≤ (number.toNat - 1) * size.toNat + size.toNat - 1 :=
    Nat.div_eq_iff hsize
  have hoffset : size.toNat * (max number.toNat 1 - 1) = (number.toNat - 1) * size.toNat := by
    rw [Nat.max_eq_left hnumber, Nat.mul_comm]
  simp only [Shows, window_of_size, Option.some.injEq, Prod.mk.injEq, hoffset]
  constructor
  · rintro ⟨offset, limit, ⟨rfl, rfl⟩, hlow, hhigh⟩
    have hpage := hdiv.mpr ⟨hlow, by omega⟩
    omega
  · intro h
    obtain ⟨hlow, hhigh⟩ := hdiv.mp (by omega)
    exact ⟨_, _, ⟨rfl, rfl⟩, hlow, by omega⟩

theorem pagesTile {size : UInt32} (hsize : 1 ≤ size.toNat) : PagesTile size := by
  refine ⟨?_, ?_, ?_, ?_⟩
  · rw [Pagination.window_of_size]
    rfl
  · intro number hnumber hlast
    have hnext : (number + 1).toNat = number.toNat + 1 := by
      rw [UInt32.toNat_add]
      exact Nat.mod_eq_of_lt hlast
    refine ⟨_, Pagination.window_of_size size number, ?_⟩
    rw [Pagination.window_of_size, hnext, Nat.max_eq_left hnumber, Nat.max_eq_left (by omega),
      Nat.add_sub_cancel, ← Nat.mul_add_one, Nat.sub_add_cancel hnumber]
  · rintro p q hp hq hne n ⟨hinp, hinq⟩
    rw [Pagination.shows_iff hsize hp] at hinp
    rw [Pagination.shows_iff hsize hq] at hinq
    exact hne (UInt32.toNat_inj.mp (hinp.trans hinq.symm))
  · intro n hn
    have hpage : n / size.toNat < 2 ^ 32 - 1 := Nat.div_lt_of_lt_mul hn
    -- the position lies in front of the end of the last page, so its page has a number of 32 bits
    have hnumber : (UInt32.ofNat (n / size.toNat + 1)).toNat = n / size.toNat + 1 := by
      rw [UInt32.toNat_ofNat']
      exact Nat.mod_eq_of_lt (by omega)
    have hpos : 1 ≤ (UInt32.ofNat (n / size.toNat + 1)).toNat := by
      rw [hnumber]
      exact Nat.le_add_left 1 _
    refine ⟨_, ⟨hpos, (Pagination.shows_iff hsize hpos).mpr hnumber⟩, ?_⟩
    rintro number ⟨hone, hshows⟩
    apply UInt32.toNat_inj.mp
    rw [hnumber]
    exact (Pagination.shows_iff hsize hone).mp hshows

theorem Json.compact_nat (n : Nat) : (Json.nat n).compact = toString n := by
  have hsign : ¬ (n : Int) < 0 := by omega
  rw [Json.nat, Json.compact, Json.write, Json.Numeral.print, String.ofList_toList,
    Number.printInt, if_neg hsign]
  rfl

theorem pageAsked_of_search {o : Options} {index : String} {filter : Option Filter}
    {sort : Option (List SortKey)} {page : Option Pagination} {request : SearchRequest}
    (h : o.search index filter sort page = .ok request) : PageAsked page request := by
  obtain ⟨query, clauses, -, -, rfl⟩ := search_ok_iff.mp h
  refine ⟨?_, ?_⟩
  · rintro size number rfl
    simp only [SearchRequest.body_member, SearchRequest.lookup_from, SearchRequest.lookup_size,
      Option.bind_some, Pagination.window_of_size, Option.map_some, Json.compact_nat, and_self]
  · intro hnone
    have hwindow : page.bind Pagination.window = none := by
      rw [Option.bind_eq_none_iff]
      intro p hp
      rw [Pagination.window_eq, hnone p hp, Option.map_none]
    simp only [SearchRequest.body_member, SearchRequest.lookup_from, SearchRequest.lookup_size,
      hwindow, Option.map_none, and_self]

/-- The offset of a page is the length of the pages in front of it and does not leave 64 bits, nor
does the end of the page. Pages of one size lie one behind the other without gap or overlap. And
whatever else a search asks for, it asks for the offset and the length of its page in decimal digits
if a page size is given, and for no page otherwise. -/
theorem pages_tile_results :
    (∀ size number : UInt32,
      Pagination.window ⟨some size, number⟩ =
        some (size.toNat * (max number.toNat 1 - 1), size.toNat) ∧
      size.toNat * (max number.toNat 1 - 1) < 2 ^ 64 ∧
      size.toNat * (max number.toNat 1 - 1) + size.toNat < 2 ^ 64) ∧
    (∀ size : UInt32, 1 ≤ size.toNat → PagesTile size) ∧
    ∀ (o : Options) (index : String) (filter : Option Filter) (sort : Option (List SortKey))
      (page : Option Pagination) (request : SearchRequest),
      o.search index filter sort page = .ok request → PageAsked page request := by
  refine ⟨?_, fun size hsize => pagesTile hsize, ?_⟩
  · intro size number
    have hend := windowEnd_lt size number
    exact ⟨Pagination.window_of_size size number, by omega, hend⟩
  · intro o index filter sort page request h
    exact pageAsked_of_search h

/-- The last of the largest pages, and the third page of ten books. -/
theorem books_tile_results :
    (Pagination.window ⟨some 4294967295, 4294967295⟩ = some (18446744060824649730, 4294967295) ∧
      18446744060824649730 + 4294967295 < 2 ^ 64) ∧
    1 ≤ (4294967295 : UInt32).toNat ∧ PagesTile 4294967295 ∧
    Options.default.search "books" none none (some ⟨some 10, 3⟩) =
      .ok ⟨"books", none, [], some 20, some 10⟩ ∧
    PageAsked (some ⟨some 10, 3⟩) ⟨"books", none, [], some 20, some 10⟩ := by
  obtain ⟨hwindow, htile, hasked⟩ := pages_tile_results
  have hsize : 1 ≤ (4294967295 : UInt32).toNat := by decide
  have hsearch : Options.default.search "books" none none (some ⟨some 10, 3⟩) =
      .ok ⟨"books", none, [], some 20, some 10⟩ := by
    rfl
  have hlargest := hwindow 4294967295 4294967295
  exact ⟨⟨hlargest.1, hlargest.2.2⟩, hsize, htile _ hsize, hsearch, hasked _ _ _ _ _ _ hsearch⟩

end ResourceQuery
