import ResourceQuery.Proofs.CanonicalText
import ResourceQuery.Proofs.JsonGrammar

namespace ResourceQuery

open Json (Draft Blanks Spelling Present RecordSpelling)

def Layer.SpelledBy (l : Layer) (s : String) : Prop :=
  ∃ b d w b', Blanks b ∧ l.Spelled d ∧ Spelling d w ∧ Blanks b' ∧ s = String.ofList (b ++ (w ++ b'))

/-- No text that the reader takes for a spelling is left out. -/
theorem Layer.spelledBy_iff {l : Layer} {s : String} :
    l.SpelledBy s ↔ ∃ d b', l.Spelled d ∧ Blanks b' ∧ Json.readText s.toList = ⟨d, .ok b'⟩ :=
  Json.spelledText_iff

theorem Layer.spelledBy_canonical (l : Layer) : l.SpelledBy l.canonical :=
  Json.spelledText_compact l.spelled_toJson l.toJson_integral

theorem Layer.parse_of_spelledBy {l : Layer} {s : String} (h : l.SpelledBy s)
    (hnesting : Json.nesting s ≤ Json.nestingLimit) : Layer.parse s = .ok l :=
  Json.SpelledText.decodeText h hnesting fun _ => Layer.decode_spelled

/-- The canonical text is a spelling of its layer; and each spelling, as long as it nests no deeper
than any text may, is read as the layer, under the fingerprint of the layer. -/
theorem every_spelling_read_alike (l : Layer) :
    l.SpelledBy l.canonical ∧
    ∀ s, l.SpelledBy s → Json.nesting s ≤ Json.nestingLimit →
      Layer.parse s = .ok l ∧ (Layer.parse s).map Layer.fingerprint = .ok l.fingerprint := by
  refine ⟨l.spelledBy_canonical, fun s h hnesting => ?_⟩
  have hparse := Layer.parse_of_spelledBy h hnesting
  refine ⟨hparse, ?_⟩
  rw [hparse]
  rfl

def taggedFirstPage : Layer where
  resource := "R"
  filter := some (.fieldPath [⟨"a", .int8⟩])
  sort := none
  pagination := some ⟨none, 1⟩

/-- Members the other way round, one that no record knows, an attribute as an array, its type
wrapped, what is absent as null, and the defaults left out. -/
def taggedFirstPageText : String :=
  "\x7b\"pagination\": \x7b\x7d, \"sort\": null,
  \"filter\": \x7b\"x\": 1, \"path\": [[\"a\", \x7b\"Int8\": null\x7d]],
    \"type\": \"FieldPath\"\x7d,
  \"resource\": \"R\"\x7d"

def taggedFirstPageFilter : Draft :=
  .object (List.reverse [(.ok "type", .string (.ok "FieldPath")),
    (.ok "path", .array [.array [.string (.ok "a"), .object [(.ok "Int8", .null)] none] none] none),
    (.ok "x", .number (.ok (.integer 1)))]) none

def taggedFirstPageDraft : Draft :=
  .object (List.reverse [(.ok "resource", .string (.ok "R")), (.ok "filter", taggedFirstPageFilter),
    (.ok "sort", .null), (.ok "pagination", .object [] none)]) none

theorem taggedFirstPageText_read :
    Json.readText taggedFirstPageText.toList = ⟨taggedFirstPageDraft, .ok []⟩ := by
  cbv

theorem taggedFirstPage_spelled : taggedFirstPage.Spelled taggedFirstPageDraft := by
  have hpath : FieldPath.Spelled [⟨"a", .int8⟩]
      (.array [.array [.string (.ok "a"), .object [(.ok "Int8", .null)] none] none] none) :=
    ⟨_, rfl, .cons (.array (.cons rfl (.cons (.inr rfl) .nil))) .nil⟩
  have hunknown : Json.Unknown (.tag "FieldPath" :: (Filter.fieldPath [⟨"a", .int8⟩]).entries)
      (.ok "x", .number (.ok (.integer 1))) :=
    ⟨"x", rfl, by simp [Filter.entries, Json.Entry.tag, Json.Entry.required], 0, _, rfl⟩
  have hfilter : (Filter.fieldPath [⟨"a", .int8⟩]).Spelled taggedFirstPageFilter :=
    .object (.given rfl (.given hpath .nil)) (List.forall_mem_singleton.mpr hunknown)
      (List.reverse_perm _)
  have hpages : Pagination.Spelled ⟨none, 1⟩ (.object [] none) :=
    .of_known (.lacking rfl (.lacking rfl .nil)) .nil
  exact .of_known (.given rfl (.given hfilter (.given rfl (.given hpages .nil))))
    (List.reverse_perm _)

/-- The text is read as the layer. -/
theorem taggedFirstPage_read :
    taggedFirstPage.SpelledBy taggedFirstPageText ∧
      Json.nesting taggedFirstPageText ≤ Json.nestingLimit ∧
      Layer.parse taggedFirstPageText = .ok taggedFirstPage ∧
      (Layer.parse taggedFirstPageText).map Layer.fingerprint =
        .ok taggedFirstPage.fingerprint := by
  have hspelled : taggedFirstPage.SpelledBy taggedFirstPageText :=
    Layer.spelledBy_iff.mpr
      ⟨_, [], taggedFirstPage_spelled, Json.blanks_nil, taggedFirstPageText_read⟩
  have hnesting : Json.nesting taggedFirstPageText ≤ Json.nestingLimit := by
    rw [Json.nesting_of_read Json.blanks_nil taggedFirstPageText_read]
    decide
  exact ⟨hspelled, hnesting,
    (every_spelling_read_alike taggedFirstPage).2 taggedFirstPageText hspelled hnesting⟩

end ResourceQuery
