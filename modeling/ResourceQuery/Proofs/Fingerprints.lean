import ResourceQuery.Compile.Request
import ResourceQuery.Proofs.CanonicalText

namespace ResourceQuery

namespace Digest

/-- Two different texts of bytes that the digest does not tell apart. -/
def Collision (a b : List UInt8) : Prop :=
  a ≠ b ∧ sha256 a = sha256 b

theorem hexDigit_inj : ∀ m < 16, ∀ n < 16, hexDigit m = hexDigit n → m = n := by
  decide

theorem hexByte_inj {a b : UInt8} (h : hexByte a = hexByte b) : a = b := by
  have ha := a.toNat_lt
  have hb := b.toNat_lt
  simp only [hexByte, List.cons.injEq, and_true] at h
  have hhigh := hexDigit_inj _ (by omega) _ (by omega) h.1
  have hlow := hexDigit_inj _ (by omega) _ (by omega) h.2
  apply UInt8.toNat_inj.mp
  omega

/-- Each byte is written in two digits, so the digits tell the bytes. -/
theorem hex_inj {as bs : List UInt8} (h : hex as = hex bs) : as = bs := by
  have hdigits : as.flatMap hexByte = bs.flatMap hexByte := String.ofList_injective h
  clear h
  induction as generalizing bs with
  | nil =>
    cases bs with
    | nil => rfl
    | cons b bs => simp [hexByte] at hdigits
  | cons a as ih =>
    cases bs with
    | nil => simp [hexByte] at hdigits
    | cons b bs =>
      rw [List.flatMap_cons, List.flatMap_cons] at hdigits
      obtain ⟨hbyte, hrest⟩ := List.append_inj hdigits rfl
      rw [hexByte_inj hbyte, ih hrest]

end Digest

/-- The draft of a value can be had from its compact text. -/
theorem Json.draft_of_compact {v w : Json} (hv : Json.Integral v) (hw : Json.Integral w)
    (h : v.compact = w.compact) : v.draft = w.draft := by
  have hread {u : Json} (hu : Json.Integral u) :
      (Json.readText u.compact.toList).draft = u.draft := by
    have hsketch := Json.readText_spelling Json.blanks_nil (Json.spelling_write hu) Json.blanks_nil
    rw [List.nil_append, List.append_nil] at hsketch
    rw [Json.compact, String.toList_ofList, hsketch]
  rw [← hread hv, ← hread hw, h]

/-- The parser's limit plays no part: the layer is read with as much room as it takes. -/
theorem Layer.canonical_inj {l m : Layer} (h : l.canonical = m.canonical) : l = m := by
  have hdraft : l.toJson.draft = m.toJson.draft :=
    Json.draft_of_compact l.toJson_integral m.toJson_integral h
  have hl : Layer.decode l.toJson.depth l.toJson.draft = .ok l :=
    Layer.decode_toJson (Nat.le_refl _)
  have hm : Layer.decode l.toJson.depth m.toJson.draft = .ok m := by
    apply Layer.decode_toJson
    rw [Json.depth, Json.depth, hdraft]
  rw [hdraft, hm] at hl
  exact (Except.ok.inj hl).symm

theorem toList_loop (bytes : ByteArray) (i : Nat) (before : List UInt8) :
    ByteArray.toList.loop bytes i before = before.reverse ++ bytes.data.toList.drop i := by
  fun_induction ByteArray.toList.loop bytes i before with
  | case1 i before hlt ih =>
    have hi : i < bytes.data.toList.length := hlt
    have hget : bytes.get! i = bytes.data.toList[i] := getElem!_pos bytes.data i hlt
    rw [ih, List.drop_eq_getElem_cons hi, List.reverse_cons, List.append_assoc, hget,
      List.singleton_append]
  | case2 i before hge =>
    have hi : bytes.data.toList.length ≤ i := Nat.le_of_not_lt hge
    rw [List.drop_eq_nil_of_le hi, List.append_nil]

theorem toUTF8_toList_inj {s t : String} (h : s.toUTF8.toList = t.toUTF8.toList) : s = t := by
  have hdata : s.toUTF8.data.toList = t.toUTF8.data.toList := by
    simpa only [ByteArray.toList, toList_loop, List.reverse_nil, List.nil_append, List.drop_zero]
      using h
  apply String.toByteArray_inj.mp
  apply ByteArray.ext
  exact Array.toList_inj.mp hdata

/-- What is digested for the fingerprint. -/
def Layer.canonicalBytes (l : Layer) : List UInt8 :=
  l.canonical.toUTF8.toList

/-- Two layers have the same bytes of canonical text only if they are the same layer. So layers of
one fingerprint are the same layer, and then compile to the same requests, or their canonical
texts are a collision of the digest. -/
theorem fingerprint_identifies_layer (l m : Layer) :
    (l.canonicalBytes = m.canonicalBytes ↔ l = m) ∧
    (l.fingerprint = m.fingerprint ↔
      (l = m ∧ ∀ (o : Options) (index : String),
        o.translate index l = o.translate index m ∧
          countRequest index l.filter = countRequest index m.filter) ∨
      Digest.Collision l.canonicalBytes m.canonicalBytes) := by
  have hbytes : l.canonicalBytes = m.canonicalBytes ↔ l = m :=
    ⟨fun h => Layer.canonical_inj (toUTF8_toList_inj h), fun h => by rw [h]⟩
  refine ⟨hbytes, ?_⟩
  constructor
  · intro h
    have hdigest : Digest.sha256 l.canonicalBytes = Digest.sha256 m.canonicalBytes :=
      Digest.hex_inj h
    by_cases hsame : l = m
    · subst hsame
      exact .inl ⟨rfl, fun o index => ⟨rfl, rfl⟩⟩
    · exact .inr ⟨fun h => hsame (hbytes.mp h), hdigest⟩
  · intro h
    rcases h with ⟨rfl, -⟩ | ⟨-, hdigest⟩
    · rfl
    · exact congrArg Digest.hex hdigest

end ResourceQuery
