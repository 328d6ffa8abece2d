import ResourceQuery.Engine.Response
import ResourceQuery.Proofs.Documents
import ResourceQuery.Proofs.JsonGrammar
import ResourceQuery.Proofs.QueryDepth
import ResourceQuery.Proofs.QueryReading

namespace ResourceQuery

open Json (Draft Entry Slot Error Gathers Separate Present RecordSpelling TextSpelling ListSpelling
  Stands Integral need)

/-- A document can be left out where it is null. -/
def Hit.entries (h : Hit) : List Entry :=
  [.required "_id" (TextSpelling h.id),
    .defaulted "_source" (Stands · h.source) (h.source = .null)]

def Hit.Spelled (h : Hit) : Draft → Prop :=
  RecordSpelling h.entries

namespace SearchResponse

/-- A record of hits can go without them where there are none. -/
def hitsEntries (Spells : Draft → Prop) (hits : List Hit) : List Entry :=
  [.defaulted "hits" Spells (hits = [])]

def Spelled (r : SearchResponse) : Draft → Prop :=
  RecordSpelling (hitsEntries
    (RecordSpelling (hitsEntries (ListSpelling Hit.Spelled r.hits) r.hits)) r.hits)

def SpelledBy (r : SearchResponse) : String → Prop :=
  Json.SpelledText r.Spelled

end SearchResponse

theorem Hit.separate (room : Nat) : Separate (Hit.fields room) := by
  constructor
  · simp [Hit.fields, Json.Slot.apart_of]
  · simp [Hit.fields, Json.Slot.counts_of]

theorem Hit.decode_spelled {room : Nat} {h : Hit} {d : Draft} (hd : h.Spelled d)
    (hdepth : d.depth ≤ room) : Hit.decode room d = .ok h := by
  obtain ⟨left, rfl⟩ := hd.exists_room hdepth
  have hgathers : Gathers left (Hit.fields left) h.entries ⟨none, none⟩
      (fun p => p.id = some h.id ∧ p.source.getD .null = h.source) := by
    apply Gathers.required rfl fun _ hc _ => hc.text
    apply Gathers.defaulted rfl rfl fun c hc hroom => by
      rw [Draft.value, hc.toJson hroom, Json.orMalformed_ok]
    intro source hsource
    refine ⟨rfl, ?_⟩
    rcases hsource with rfl | ⟨rfl, hnull⟩
    · rfl
    · exact hnull.symm
  obtain ⟨p, hp, hid, hsource⟩ := hd.record hdepth (Hit.separate left) rfl hgathers
  rw [Hit.decode, hp, ok_bind, hid, hsource]
  rfl

namespace SearchResponse

theorem decodeHits_spelled {Spells : Draft → Prop} {hits : List Hit} {room : Nat} {d : Draft}
    {decode : Nat → Draft → Except Error (List Hit)} (h : RecordSpelling (hitsEntries Spells hits) d)
    (hdepth : d.depth ≤ room)
    (hread : ∀ left c, Spells c → c.depth ≤ left → decode left c = .ok hits) (title : String) :
    decodeHits title decode room d = .ok hits := by
  obtain ⟨left, rfl⟩ := h.exists_room hdepth
  have hseparate : Separate [Slot.of "hits" true id (fun _ v => v) (decode left)] := by
    constructor
    · simp
    · simp [Json.Slot.counts_of]
  have hgathers : Gathers left [Slot.of "hits" true id (fun _ v => v) (decode left)]
      (hitsEntries Spells hits) none (fun o => o.getD [] = hits) := by
    apply Gathers.defaulted rfl rfl (hread left)
    intro o ho
    rcases ho with rfl | ⟨rfl, hnil⟩
    · rfl
    · exact hnil.symm
  have hrecord : ∃ o, d.record .text title
      (fun room => [Slot.of "hits" true id (fun _ v => v) (decode room)]) none (left + 1) = .ok o ∧
        o.getD [] = hits :=
    h.record hdepth hseparate rfl hgathers
  obtain ⟨o, ho, hhits⟩ := hrecord
  rw [decodeHits, ho, ok_bind, hhits]
  rfl

/-- A reply is read from each of its spellings. -/
theorem decode_spelled {room : Nat} {r : SearchResponse} {d : Draft} (h : r.Spelled d)
    (hdepth : d.depth ≤ room) : decode room d = .ok r := by
  have hhits : decodeHits "struct SearchResponse"
      (decodeHits "struct Hits" (Draft.list Hit.decode)) room d = .ok r.hits := by
    refine decodeHits_spelled h hdepth (fun left c hc hleft => ?_) _
    refine decodeHits_spelled hc hleft (fun left e he hleft => ?_) _
    exact he.list hleft fun _ _ _ _ _ => Hit.decode_spelled
  rw [decode, hhits]
  rfl

theorem parse_of_spelledBy {r : SearchResponse} {s : String} (h : r.SpelledBy s)
    (hnesting : Json.nesting s ≤ Json.nestingLimit) : parse s = .ok r :=
  h.decodeText hnesting fun _ => decode_spelled

end SearchResponse

theorem Hit.of_decode {room : Nat} {d : Draft} {h : Hit} (hd : Hit.decode room d = .ok h) :
    h.source.Ordered ∧ h.toJson.depth ≤ room := by
  obtain ⟨p, hp, hd⟩ := bind_ok_iff.mp hd
  obtain ⟨id, -, hd⟩ := bind_ok_iff.mp hd
  cases hd
  have hkeep (left : Nat) : ∀ slot ∈ Hit.fields left, slot.Keeps fun p =>
      (p.source.getD .null).Ordered ∧ (p.source.getD .null).depth ≤ left := by
    intro slot hslot
    simp only [Hit.fields, List.mem_cons, List.not_mem_nil, or_false] at hslot
    rcases hslot with rfl | rfl
    · exact Json.Slot.of_keeps fun _ _ _ hs _ => hs
    · refine Json.Slot.of_keeps fun e v _ _ hv => ?_
      obtain ⟨hstands, hdepth⟩ := Json.toJson_iff.mp (mapError_ok_iff.mp hv)
      exact ⟨hstands.ordered, hstands.depth_le.trans hdepth⟩
  obtain ⟨left, rfl, hordered, hdepth⟩ :=
    Json.Draft.record_keeps (fun left => ⟨.null, Nat.zero_le left⟩) hkeep hp
  exact ⟨hordered, Json.depth_object_le.mpr ⟨left, rfl, by simp [hdepth]⟩⟩

namespace SearchResponse

theorem decodeHits_ok {title : String} {decode : Nat → Draft → Except Error (List Hit)}
    {room : Nat} {d : Draft} {hits : List Hit} (h : decodeHits title decode room d = .ok hits) :
    ∀ hit ∈ hits, ∃ left e, room = left + 1 ∧ decode left e = .ok hits := by
  obtain ⟨o, ho, h⟩ := bind_ok_iff.mp h
  cases h
  have hkeep (left : Nat) : ∀ slot ∈ [Slot.of "hits" true id (fun _ v => v) (decode left)],
      slot.Keeps fun o => ∀ hits, o = some hits → ∃ e, decode left e = .ok hits := by
    intro slot hslot
    cases List.mem_singleton.mp hslot
    refine Json.Slot.of_keeps fun e v _ _ hv hits hsome => ?_
    cases hsome
    exact ⟨e, hv⟩
  obtain ⟨left, rfl, hleft⟩ := Json.Draft.record_keeps (by simp) hkeep ho
  intro hit hhit
  cases o with
  | none => cases hhit
  | some hits =>
    obtain ⟨e, he⟩ := hleft hits rfl
    exact ⟨left, e, rfl, he⟩

/-- Each hit was read three containers below the reply. -/
theorem hit_of_decode {room : Nat} {d : Draft} {r : SearchResponse} (h : decode room d = .ok r) :
    ∀ hit ∈ r.hits, hit.source.Ordered ∧ ∃ left, room = left + 3 ∧ hit.toJson.depth ≤ left := by
  obtain ⟨hits, hhits, rfl⟩ := map_ok_iff.mp h
  intro hit hhit
  obtain ⟨_, _, rfl, hinner⟩ := decodeHits_ok hhits hit hhit
  obtain ⟨_, _, rfl, hlist⟩ := decodeHits_ok hinner hit hhit
  obtain ⟨left, rfl, heach⟩ := Json.Draft.list_ok hlist
  obtain ⟨e, he⟩ := heach hit hhit
  obtain ⟨hordered, hdepth⟩ := Hit.of_decode he
  exact ⟨hordered, left, rfl, hdepth⟩

end SearchResponse

theorem Hit.spelled_toJson {h : Hit} (hordered : h.source.Ordered) : h.Spelled h.toJson.draft :=
  .of_present (.given rfl (.given hordered.stands .nil))

theorem Hit.toJson_integral {h : Hit} (hsource : Integral h.source) : Integral h.toJson := by
  apply Integral.object
  simp [Integral.string, hsource]

namespace SearchResponse

variable {r : SearchResponse}

theorem spelled_toJson (h : ∀ hit ∈ r.hits, hit.source.Ordered) : r.Spelled r.toJson.draft := by
  have hlist : ListSpelling Hit.Spelled r.hits (Json.array (r.hits.map Hit.toJson)).draft :=
    .map fun hit hhit => Hit.spelled_toJson (h hit hhit)
  exact .of_present (.given (.of_present (.given hlist .nil)) .nil)

theorem toJson_integral (h : ∀ d ∈ r.documents, Integral d) : Integral r.toJson := by
  have hlist : Integral (.array (r.hits.map Hit.toJson)) := by
    apply Integral.array
    intro v hv
    obtain ⟨hit, hhit, rfl⟩ := List.mem_map.mp hv
    exact Hit.toJson_integral (h _ (List.mem_map_of_mem hhit))
  have hhits : Integral (.object [("hits", .array (r.hits.map Hit.toJson))]) :=
    .object (List.forall_mem_singleton.mpr hlist)
  exact .object (List.forall_mem_singleton.mpr hhits)

theorem depth_toJson {room : Nat} (h : ∀ hit ∈ r.hits, hit.toJson.depth ≤ room) :
    r.toJson.depth ≤ room + 3 := by
  have hlist : (Json.array (r.hits.map Hit.toJson)).depth ≤ room + 1 :=
    Json.depth_array_le.mpr ⟨room, rfl, List.forall_mem_map.mpr h⟩
  have hhits : (Json.object [("hits", .array (r.hits.map Hit.toJson))]).depth ≤ room + 2 :=
    Json.depth_object_le.mpr ⟨room + 1, rfl, List.forall_mem_singleton.mpr hlist⟩
  exact Json.depth_object_le.mpr ⟨room + 2, rfl, List.forall_mem_singleton.mpr hhits⟩

theorem spelledBy_canonical (hordered : ∀ hit ∈ r.hits, hit.source.Ordered)
    (hintegral : ∀ d ∈ r.documents, Integral d) : r.SpelledBy r.canonical :=
  Json.spelledText_compact (spelled_toJson hordered) (toJson_integral hintegral)

/-- A reply that has been read is read again from its canonical text. -/
theorem parse_canonical {s : String} (h : parse s = .ok r)
    (hintegral : ∀ d ∈ r.documents, Integral d) : parse r.canonical = .ok r := by
  obtain ⟨again, hdecode, h⟩ := bind_ok_iff.mp h
  obtain ⟨-, -, h⟩ := bind_ok_iff.mp h
  cases h
  have hhits := hit_of_decode hdecode
  have hdepth : r.toJson.depth ≤ 124 + 3 := by
    apply depth_toJson
    intro hit hhit
    obtain ⟨-, left, hroom, hdepth⟩ := hhits hit hhit
    rw [Json.nestingLimit] at hroom
    omega
  apply parse_of_spelledBy (spelledBy_canonical (fun hit hhit => (hhits hit hhit).1) hintegral)
  rw [canonical, Json.nesting_compact (toJson_integral hintegral)]
  exact hdepth

end SearchResponse

/-- A reply whose documents have no other numbers than integers of 64 bits is read again from its
canonical text as it is, with the same documents. And hits are read from every text that spells
them, whatever members it adds and in whatever order, as long as it nests no deeper than any text
may: their documents come out in the order of the hits. -/
theorem replies_survive_coding :
    (∀ s r, SearchResponse.parse s = .ok r → (∀ d ∈ r.documents, Integral d) →
      SearchResponse.parse r.canonical = .ok r ∧
        (SearchResponse.parse r.canonical).map SearchResponse.documents = .ok r.documents) ∧
    ∀ (hits : List Hit) (s : String), SearchResponse.SpelledBy ⟨hits⟩ s →
      Json.nesting s ≤ Json.nestingLimit →
        (SearchResponse.parse s).map SearchResponse.documents = .ok (hits.map Hit.source) := by
  constructor
  · intro s r h hintegral
    have hparse := SearchResponse.parse_canonical h hintegral
    refine ⟨hparse, ?_⟩
    rw [hparse]
    rfl
  · intro hits s h hnesting
    rw [SearchResponse.parse_of_spelledBy h hnesting]
    rfl

def twoHits : List Hit :=
  [⟨"a", .object [("n", .number (.integer 7)), ("t", .string "é")]⟩, ⟨"b", .null⟩]

/-- Members that no record knows at every level, the list behind one of them, a document with a key
that comes twice, and a hit without a document. -/
def twoHitsText : String :=
  "\x7b\"took\": 3, \"hits\": \x7b\"total\": 2, \"hits\": [
    \x7b\"_source\": \x7b\"t\": [], \"n\": 7, \"t\": \"\\u00e9\"\x7d, \"_id\": \"a\"\x7d,
    \x7b\"_id\": \"b\", \"_score\": null\x7d]\x7d\x7d"

def twiceKeyedDraft : Draft :=
  .object [(.ok "t", .array [] none), (.ok "n", .number (.ok (.integer 7))),
    (.ok "t", .string (.ok "é"))] none

def twoHitsListDraft : Draft :=
  .array [.object (List.reverse [(.ok "_id", .string (.ok "a")), (.ok "_source", twiceKeyedDraft)])
      none,
    .object [(.ok "_id", .string (.ok "b")), (.ok "_score", .null)] none] none

def twoHitsDraft : Draft :=
  .object (List.reverse [(.ok "hits", .object (List.reverse [(.ok "hits", twoHitsListDraft),
      (.ok "total", .number (.ok (.integer 2)))]) none),
    (.ok "took", .number (.ok (.integer 3)))]) none

theorem twoHitsText_read : Json.readText twoHitsText.toList = ⟨twoHitsDraft, .ok []⟩ := by
  cbv

theorem twoHits_spelled : SearchResponse.Spelled ⟨twoHits⟩ twoHitsDraft := by
  have hread : twiceKeyedDraft.toJson 2 =
      .ok (.object [("n", .number (.integer 7)), ("t", .string "é")]) := rfl
  have hunknown {entries : List Entry} {k : String} {d : Draft} {v : Json}
      (hk : ∀ e ∈ entries, e.name ≠ k) (hd : Stands d v) :
      ∀ m ∈ [((.ok k : Except Json.SyntaxError String), d)], Json.Unknown entries m :=
    List.forall_mem_singleton.mpr ⟨k, rfl, hk, _, v, hd.toJson (Nat.le_refl _)⟩
  have hlist : ListSpelling Hit.Spelled twoHits twoHitsListDraft := by
    refine ⟨_, rfl, .cons ?_ (.cons ?_ .nil)⟩
    · have hdocument := (Json.toJson_iff.mp hread).1
      exact .of_known (.given rfl (.given hdocument .nil)) (List.reverse_perm _)
    · refine .object (.given rfl (.lacking rfl .nil)) (hunknown ?_ .null) (.refl _)
      simp [Hit.entries, Entry.required, Entry.defaulted]
  have hhits : RecordSpelling
      (SearchResponse.hitsEntries (ListSpelling Hit.Spelled twoHits) twoHits)
      (.object (List.reverse [(.ok "hits", twoHitsListDraft),
        (.ok "total", .number (.ok (.integer 2)))]) none) := by
    refine .object (.given hlist .nil) (hunknown ?_ (.number (.integer 2))) (List.reverse_perm _)
    simp [SearchResponse.hitsEntries, Entry.defaulted]
  refine .object (.given hhits .nil) (hunknown ?_ (.number (.integer 3))) (List.reverse_perm _)
  simp [SearchResponse.hitsEntries, Entry.defaulted]

/-- The text is read as the two hits, and so is the reply that is written for it. -/
theorem twoHits_survive :
    SearchResponse.SpelledBy ⟨twoHits⟩ twoHitsText ∧
      Json.nesting twoHitsText ≤ Json.nestingLimit ∧
      (SearchResponse.parse twoHitsText).map SearchResponse.documents =
        .ok (twoHits.map Hit.source) ∧
      SearchResponse.parse (SearchResponse.canonical ⟨twoHits⟩) = .ok ⟨twoHits⟩ := by
  have hspelled : SearchResponse.SpelledBy ⟨twoHits⟩ twoHitsText :=
    Json.spelledText_iff.mpr ⟨_, [], twoHits_spelled, Json.blanks_nil, twoHitsText_read⟩
  have hnesting : Json.nesting twoHitsText ≤ Json.nestingLimit := by
    rw [Json.nesting_of_read Json.blanks_nil twoHitsText_read]
    decide
  have hparse : SearchResponse.parse twoHitsText = .ok ⟨twoHits⟩ :=
    SearchResponse.parse_of_spelledBy hspelled hnesting
  have hintegral : ∀ d ∈ SearchResponse.documents ⟨twoHits⟩, Integral d := by
    refine List.forall_mem_cons.mpr ⟨.object ?_, List.forall_mem_singleton.mpr .null⟩
    simp [Integral.string, Integral.number]
  exact ⟨hspelled, hnesting, replies_survive_coding.2 _ _ hspelled hnesting,
    (replies_survive_coding.1 _ _ hparse hintegral).1⟩

end ResourceQuery
