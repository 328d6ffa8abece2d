import ResourceQuery.Json.Decode
import ResourceQuery.Proofs.Results

namespace ResourceQuery.Json

/-- A text of blanks. -/
def Blanks (b : List Char) : Prop :=
  ∀ c ∈ b, isSpace c = true

/-- Text behind a number that is no part of it. -/
def EndsNumber (r : List Char) : Prop :=
  ∀ c t, r = c :: t → ¬ (c.isDigit ∨ c = '.' ∨ c = 'e' ∨ c = 'E')

/-- The text of a number, as the reader takes it. -/
structure NumberSpelling (w : Written) (cs : List Char) : Prop where
  head : ∃ c t, cs = c :: t ∧ (c = '-' ∨ c.isDigit)
  read : ∀ r, EndsNumber r → readNumber (cs ++ r) = .ok (w, r)

/-- The text of a string behind its opening quote, as the reader takes it. -/
def QuotedSpelling (text : Except SyntaxError (List Char)) (cs : List Char) : Prop :=
  ∀ r, readQuoted none (cs ++ r) = ⟨text, .ok r⟩

mutual

/-- The text of a value without faults, between its first and its last character. -/
inductive Spelling : Draft → List Char → Prop where
  | null : Spelling .null "null".toList
  | yes : Spelling (.bool true) "true".toList
  | no : Spelling (.bool false) "false".toList
  | number {w : Written} {cs : List Char} (h : NumberSpelling w cs) :
      Spelling (.number w.value) cs
  | string {text : Except SyntaxError (List Char)} {cs : List Char}
      (h : QuotedSpelling text cs) : Spelling (.string (text.map String.ofList)) ('"' :: cs)
  | noItems {b : List Char} (hb : Blanks b) : Spelling (.array [] none) ('[' :: (b ++ [']']))
  | items {b cs ts : List Char} {d : Draft} {ds : List Draft} (hb : Blanks b)
      (hd : Spelling d cs) (ht : MoreItems ds ts) :
      Spelling (.array (d :: ds) none) ('[' :: (b ++ (cs ++ ts)))
  | noMembers {b : List Char} (hb : Blanks b) :
      Spelling (.object [] none) ('\x7b' :: (b ++ ['\x7d']))
  | members {b cs ts : List Char} {m : Except SyntaxError String × Draft}
      {ms : List (Except SyntaxError String × Draft)} (hb : Blanks b) (hm : MemberSpelling m cs)
      (ht : MoreMembers ms ts) : Spelling (.object (m :: ms) none) ('\x7b' :: (b ++ (cs ++ ts)))

/-- What follows an item of an array, up to the closing bracket. -/
inductive MoreItems : List Draft → List Char → Prop where
  | close {b : List Char} (hb : Blanks b) : MoreItems [] (b ++ [']'])
  | next {b b' cs ts : List Char} {d : Draft} {ds : List Draft} (hb : Blanks b) (hb' : Blanks b')
      (hd : Spelling d cs) (ht : MoreItems ds ts) :
      MoreItems (d :: ds) (b ++ ',' :: (b' ++ (cs ++ ts)))

/-- A key, a colon and a value. -/
inductive MemberSpelling : Except SyntaxError String × Draft → List Char → Prop where
  | mk {key : Except SyntaxError (List Char)} {ks b b' cs : List Char} {d : Draft}
      (hk : QuotedSpelling key ks) (hb : Blanks b) (hb' : Blanks b') (hd : Spelling d cs) :
      MemberSpelling (key.map String.ofList, d) ('"' :: (ks ++ (b ++ ':' :: (b' ++ cs))))

/-- What follows a member of an object, up to the closing brace. -/
inductive MoreMembers : List (Except SyntaxError String × Draft) → List Char → Prop where
  | close {b : List Char} (hb : Blanks b) : MoreMembers [] (b ++ ['\x7d'])
  | next {b b' cs ts : List Char} {m : Except SyntaxError String × Draft}
      {ms : List (Except SyntaxError String × Draft)} (hb : Blanks b) (hb' : Blanks b')
      (hm : MemberSpelling m cs) (ht : MoreMembers ms ts) :
      MoreMembers (m :: ms) (b ++ ',' :: (b' ++ (cs ++ ts)))

end

theorem skipSpace_blanks {b : List Char} (hb : Blanks b) (r : List Char) :
    skipSpace (b ++ r) = skipSpace r := by
  induction b with
  | nil => rfl
  | cons c b ih =>
    have hc : isSpace c = true := hb c (by simp)
    rw [List.cons_append, skipSpace, List.dropWhile_cons_of_pos hc]
    exact ih fun d hd => hb d (by simp [hd])

theorem skipSpace_cons {c : Char} (hc : isSpace c = false) (r : List Char) :
    skipSpace (c :: r) = c :: r := by
  rw [skipSpace, List.dropWhile_cons_of_neg (by simp [hc])]

/-- A character with which a value can begin. -/
def isValueStart (c : Char) : Bool :=
  ['n', 't', 'f', '"', '[', '\x7b', '-'].contains c || c.isDigit

theorem not_start_of_mem {c d : Char} (hc : isValueStart c = true) (hd : isValueStart d = false) :
    c ≠ d := by
  intro h
  subst h
  simp [hc] at hd

theorem not_space_of_start {c : Char} (hc : isValueStart c = true) : isSpace c = false := by
  have h1 : c ≠ ' ' := not_start_of_mem hc (by decide)
  have h2 : c ≠ '\t' := not_start_of_mem hc (by decide)
  have h3 : c ≠ '\n' := not_start_of_mem hc (by decide)
  have h4 : c ≠ '\r' := not_start_of_mem hc (by decide)
  simp [isSpace, h1, h2, h3, h4]

theorem Spelling.head {d : Draft} {cs : List Char} (h : Spelling d cs) :
    ∃ c t, cs = c :: t ∧ isValueStart c = true := by
  cases h with
  | null => exact ⟨'n', _, rfl, rfl⟩
  | yes => exact ⟨'t', _, rfl, rfl⟩
  | no => exact ⟨'f', _, rfl, rfl⟩
  | number h =>
    obtain ⟨c, t, rfl, hc⟩ := h.head
    refine ⟨c, t, rfl, ?_⟩
    rcases hc with rfl | hc
    · rfl
    · simp [isValueStart, hc]
  | string h => exact ⟨'"', _, rfl, rfl⟩
  | noItems hb => exact ⟨'[', _, rfl, rfl⟩
  | items hb hd ht => exact ⟨'[', _, rfl, rfl⟩
  | noMembers hb => exact ⟨'\x7b', _, rfl, rfl⟩
  | members hb hm ht => exact ⟨'\x7b', _, rfl, rfl⟩

theorem MemberSpelling.head {m : Except SyntaxError String × Draft} {cs : List Char}
    (h : MemberSpelling m cs) : ∃ t, cs = '"' :: t := by
  cases h with
  | mk hk hb hb' hd => exact ⟨_, rfl⟩

theorem EndsNumber.cons {c : Char} (hc : ¬ (c.isDigit ∨ c = '.' ∨ c = 'e' ∨ c = 'E'))
    (r : List Char) : EndsNumber (c :: r) := by
  intro d t h
  obtain ⟨rfl, -⟩ := List.cons.inj h
  exact hc

theorem Blanks.endsNumber {b r : List Char} (hb : Blanks b) (hr : EndsNumber r) :
    EndsNumber (b ++ r) := by
  cases b with
  | nil => exact hr
  | cons c b =>
    have hc := hb c (by simp)
    simp only [isSpace, Bool.or_eq_true, beq_iff_eq] at hc
    apply EndsNumber.cons
    rcases hc with ((rfl | rfl) | rfl) | rfl <;> decide

theorem MoreItems.endsNumber {ds : List Draft} {ts : List Char} (h : MoreItems ds ts)
    (rest : List Char) : EndsNumber (ts ++ rest) := by
  cases h with
  | close hb => simpa using hb.endsNumber (.cons (by decide) _)
  | next hb hb' hd ht => simpa using hb.endsNumber (.cons (by decide) _)

theorem MoreMembers.endsNumber {ms : List (Except SyntaxError String × Draft)} {ts : List Char}
    (h : MoreMembers ms ts) (rest : List Char) : EndsNumber (ts ++ rest) := by
  cases h with
  | close hb => simpa using hb.endsNumber (.cons (by decide) _)
  | next hb hb' hm ht => simpa using hb.endsNumber (.cons (by decide) _)

theorem readValue_blanks {b : List Char} (hb : Blanks b) (fuel : Nat) (cs : List Char) :
    readValue fuel (b ++ cs) = readValue fuel cs := by
  cases fuel with
  | zero => rfl
  | succ fuel => rw [readValue, readValue, skipSpace_blanks hb]

theorem readValue_number {w : Written} {cs rest : List Char} (h : NumberSpelling w cs)
    (hr : EndsNumber rest) (fuel : Nat) :
    readValue (fuel + 1) (cs ++ rest) = ⟨.number w.value, .ok rest⟩ := by
  obtain ⟨c, t, rfl, hc⟩ := h.head
  have hs : isValueStart c = true := by
    rcases hc with rfl | hc
    · rfl
    · simp [isValueStart, hc]
  have hread := h.read rest hr
  rw [List.cons_append] at hread ⊢
  have hword (d : Char) (hd : ¬ (d = '-' ∨ d.isDigit)) : c ≠ d := by
    intro h
    subst h
    exact hd hc
  rw [readValue, skipSpace_cons (not_space_of_start hs)]
  split
  case h_8 heq =>
    obtain ⟨rfl, rfl⟩ := List.cons.inj heq
    simp [hc, Sketch.ofNumber, hread]
  case h_1 heq => contradiction
  all_goals
    rename_i heq
    exact absurd (List.cons.inj heq).1 (hword _ (by decide))

theorem skipSpace_spelling {d : Draft} {cs : List Char} (h : Spelling d cs) (r : List Char) :
    ∃ c t, cs ++ r = c :: t ∧ skipSpace (cs ++ r) = c :: t ∧ isValueStart c = true := by
  obtain ⟨c, t, rfl, hc⟩ := h.head
  exact ⟨c, t ++ r, rfl, skipSpace_cons (not_space_of_start hc) _, hc⟩

theorem readItems_close {b : List Char} (hb : Blanks b) (fuel : Nat) (first : Bool)
    (rest : List Char) : readItems (fuel + 1) first (b ++ ']' :: rest) = .done rest := by
  rw [readItems, skipSpace_blanks hb, skipSpace_cons rfl]
  rfl

theorem readItems_first {b cs r : List Char} {d : Draft} {fuel : Nat} (hb : Blanks b)
    (hd : Spelling d cs) (hread : readValue fuel (cs ++ r) = ⟨d, .ok r⟩) :
    readItems (fuel + 1) true (b ++ (cs ++ r)) = (readItems fuel false r).cons d := by
  obtain ⟨c, t, he, hskip, hc⟩ := skipSpace_spelling hd r
  have hclose : c ≠ ']' := not_start_of_mem hc (by decide)
  rw [he] at hread
  rw [readItems, skipSpace_blanks hb, hskip]
  simp [nextItem, hclose, hread]

theorem readItems_next {b b' cs r : List Char} {d : Draft} {fuel : Nat} (hb : Blanks b)
    (hb' : Blanks b') (hd : Spelling d cs) (hread : readValue fuel (cs ++ r) = ⟨d, .ok r⟩) :
    readItems (fuel + 1) false (b ++ ',' :: (b' ++ (cs ++ r))) =
      (readItems fuel false r).cons d := by
  obtain ⟨c, t, he, hskip, hc⟩ := skipSpace_spelling hd r
  have hclose : c ≠ ']' := not_start_of_mem hc (by decide)
  rw [he] at hread
  rw [readItems, skipSpace_blanks hb, skipSpace_cons rfl]
  simp [nextItem, skipSpace_blanks hb', hskip, hclose, hread]

theorem readMembers_close {b : List Char} (hb : Blanks b) (fuel : Nat) (first : Bool)
    (rest : List Char) : readMembers (fuel + 1) first (b ++ '\x7d' :: rest) = .done rest := by
  rw [readMembers, skipSpace_blanks hb, skipSpace_cons rfl]
  rfl

theorem afterColon_blanks {b : List Char} (hb : Blanks b) (r : List Char) :
    afterColon (b ++ ':' :: r) = .ok r := by
  rw [afterColon, skipSpace_blanks hb, skipSpace_cons rfl]
  rfl

/-- A member is read where its key begins. -/
theorem readMembers_key {first : Bool} {c : Char} {pre u ks b b' cs r : List Char} {d : Draft}
    {key : Except SyntaxError (List Char)} {fuel : Nat} (hskip : skipSpace pre = c :: u)
    (hc : c ≠ '\x7d')
    (hnext : nextKey first (c :: u) = .ok ('"' :: (ks ++ (b ++ ':' :: (b' ++ (cs ++ r))))))
    (hk : QuotedSpelling key ks) (hb : Blanks b) (hb' : Blanks b')
    (hread : readValue fuel (cs ++ r) = ⟨d, .ok r⟩) :
    readMembers (fuel + 1) first pre =
      (readMembers fuel false r).cons (key.map String.ofList, d) := by
  rw [readMembers, hskip]
  simp [hc, hnext, hk _, afterColon_blanks hb, readValue_blanks hb', hread]

theorem readMembers_first {b b' b'' ks cs r : List Char} {d : Draft}
    {key : Except SyntaxError (List Char)} {fuel : Nat} (hb : Blanks b)
    (hk : QuotedSpelling key ks) (hb' : Blanks b') (hb'' : Blanks b'')
    (hread : readValue fuel (cs ++ r) = ⟨d, .ok r⟩) :
    readMembers (fuel + 1) true (b ++ '"' :: (ks ++ (b' ++ ':' :: (b'' ++ (cs ++ r))))) =
      (readMembers fuel false r).cons (key.map String.ofList, d) := by
  refine readMembers_key ?_ (by decide) rfl hk hb' hb'' hread
  rw [skipSpace_blanks hb, skipSpace_cons rfl]

theorem readMembers_next {a b b' b'' ks cs r : List Char} {d : Draft}
    {key : Except SyntaxError (List Char)} {fuel : Nat} (ha : Blanks a) (hb : Blanks b)
    (hk : QuotedSpelling key ks) (hb' : Blanks b') (hb'' : Blanks b'')
    (hread : readValue fuel (cs ++ r) = ⟨d, .ok r⟩) :
    readMembers (fuel + 1) false
        (a ++ ',' :: (b ++ '"' :: (ks ++ (b' ++ ':' :: (b'' ++ (cs ++ r)))))) =
      (readMembers fuel false r).cons (key.map String.ofList, d) := by
  have hskip := skipSpace_blanks ha (',' :: (b ++ '"' :: (ks ++ (b' ++ ':' :: (b'' ++ (cs ++ r))))))
  rw [skipSpace_cons rfl] at hskip
  refine readMembers_key hskip (by decide) ?_ hk hb' hb'' hread
  simp [nextKey, skipSpace_blanks hb, skipSpace_cons, isSpace]

/-- What the reader makes of spellings that this much fuel suffices for. -/
structure Reads (fuel : Nat) : Prop where
  value : ∀ {d cs} rest, Spelling d cs → EndsNumber rest → 2 * cs.length ≤ fuel →
    readValue fuel (cs ++ rest) = ⟨d, .ok rest⟩
  items : ∀ {ds ts} rest, MoreItems ds ts → 2 * ts.length ≤ fuel →
    readItems fuel false (ts ++ rest) = ⟨ds, .ok rest⟩
  members : ∀ {ms ts} rest, MoreMembers ms ts → 2 * ts.length ≤ fuel →
    readMembers fuel false (ts ++ rest) = ⟨ms, .ok rest⟩

theorem Spelling.length_pos {d : Draft} {cs : List Char} (h : Spelling d cs) : 0 < cs.length := by
  obtain ⟨c, t, rfl, -⟩ := h.head
  simp

theorem MoreItems.length_pos {ds : List Draft} {ts : List Char} (h : MoreItems ds ts) :
    0 < ts.length := by
  cases h with
  | close hb => simp
  | next hb hb' _ ht =>
    simp only [List.length_append, List.length_cons]
    omega

theorem MoreMembers.length_pos {ms : List (Except SyntaxError String × Draft)} {ts : List Char}
    (h : MoreMembers ms ts) : 0 < ts.length := by
  cases h with
  | close hb => simp
  | next hb hb' _ ht =>
    simp only [List.length_append, List.length_cons]
    omega

theorem reads_value {fuel : Nat} (ih : ∀ m < fuel, Reads m) {d : Draft} {cs : List Char}
    (rest : List Char) (h : Spelling d cs) (hr : EndsNumber rest) (hf : 2 * cs.length ≤ fuel) :
    readValue fuel (cs ++ rest) = ⟨d, .ok rest⟩ := by
  have hpos := h.length_pos
  obtain ⟨fuel, rfl⟩ : ∃ n, fuel = n + 2 := ⟨fuel - 2, by omega⟩
  cases h with
  | null => rfl
  | yes => rfl
  | no => rfl
  | number h => exact readValue_number h hr _
  | string h =>
    have hq := h rest
    simp [readValue, skipSpace_cons, isSpace, hq, Sketch.ofQuoted]
  | @noItems b hb =>
    have hclose := readItems_close hb fuel true rest
    simp [readValue, skipSpace_cons, isSpace, hclose, Series.done, brokenAt]
  | @items b cs ts d ds hb hd ht =>
    simp only [List.length_cons, List.length_append] at hf
    have hdpos := hd.length_pos
    have htpos := ht.length_pos
    have hvalue := (ih fuel (by omega)).value (ts ++ rest) hd (ht.endsNumber rest) (by omega)
    have hmore := (ih fuel (by omega)).items rest ht (by omega)
    have hitems := readItems_first hb hd hvalue
    simp [readValue, skipSpace_cons, isSpace, hitems, hmore, Series.cons, brokenAt]
  | @noMembers b hb =>
    have hclose := readMembers_close hb fuel true rest
    simp [readValue, skipSpace_cons, isSpace, hclose, Series.done, brokenAt]
  | @members b cs ts m ms hb hm ht =>
    cases hm with
    | @mk key ks b' b'' cs d hk hb' hb'' hd =>
      simp only [List.length_cons, List.length_append] at hf
      have htpos := ht.length_pos
      have hvalue := (ih fuel (by omega)).value (ts ++ rest) hd (ht.endsNumber rest) (by omega)
      have hmore := (ih fuel (by omega)).members rest ht (by omega)
      have hmembers := readMembers_first hb hk hb' hb'' hvalue
      simp [readValue, skipSpace_cons, isSpace, hmembers, hmore, Series.cons, brokenAt]

theorem reads_items {fuel : Nat} (ih : ∀ m < fuel, Reads m) {ds : List Draft} {ts : List Char}
    (rest : List Char) (h : MoreItems ds ts) (hf : 2 * ts.length ≤ fuel) :
    readItems fuel false (ts ++ rest) = ⟨ds, .ok rest⟩ := by
  have hpos := h.length_pos
  obtain ⟨fuel, rfl⟩ : ∃ n, fuel = n + 1 := ⟨fuel - 1, by omega⟩
  cases h with
  | @close b hb =>
    have hclose := readItems_close hb fuel false rest
    simpa [Series.done] using hclose
  | @next b b' cs ts d ds hb hb' hd ht =>
    simp only [List.length_cons, List.length_append] at hf
    have hdpos := hd.length_pos
    have hvalue := (ih fuel (by omega)).value (ts ++ rest) hd (ht.endsNumber rest) (by omega)
    have hmore := (ih fuel (by omega)).items rest ht (by omega)
    have hnext := readItems_next hb hb' hd hvalue
    simpa [hmore, Series.cons] using hnext

theorem reads_members {fuel : Nat} (ih : ∀ m < fuel, Reads m)
    {ms : List (Except SyntaxError String × Draft)} {ts : List Char} (rest : List Char)
    (h : MoreMembers ms ts) (hf : 2 * ts.length ≤ fuel) :
    readMembers fuel false (ts ++ rest) = ⟨ms, .ok rest⟩ := by
  have hpos := h.length_pos
  obtain ⟨fuel, rfl⟩ : ∃ n, fuel = n + 1 := ⟨fuel - 1, by omega⟩
  cases h with
  | @close b hb =>
    have hclose := readMembers_close hb fuel false rest
    simpa [Series.done] using hclose
  | @next a b cs ts m ms ha hb hm ht =>
    cases hm with
    | @mk key ks b' b'' cs d hk hb' hb'' hd =>
      simp only [List.length_cons, List.length_append] at hf
      have hvalue := (ih fuel (by omega)).value (ts ++ rest) hd (ht.endsNumber rest) (by omega)
      have hmore := (ih fuel (by omega)).members rest ht (by omega)
      have hnext := readMembers_next ha hb hk hb' hb'' hvalue
      simpa [hmore, Series.cons] using hnext

theorem reads (fuel : Nat) : Reads fuel := by
  induction fuel using Nat.strongRecOn with
  | ind fuel ih =>
    exact ⟨fun rest h hr hf => reads_value ih rest h hr hf,
      fun rest h hf => reads_items ih rest h hf, fun rest h hf => reads_members ih rest h hf⟩

/-- The reader takes a text of one value for the draft that it spells, and leaves the blanks behind
it. -/
theorem readText_spelling {d : Draft} {b cs b' : List Char} (hb : Blanks b) (h : Spelling d cs)
    (hb' : Blanks b') : readText (b ++ (cs ++ b')) = ⟨d, .ok b'⟩ := by
  have hend : EndsNumber b' := by
    simpa using hb'.endsNumber (r := []) nofun
  have hread := (reads (2 * (b ++ (cs ++ b')).length + 2)).value b' h hend
    (by simp only [List.length_append]; omega)
  rw [readText, readValue_blanks hb, hread]

/-- Decoding a text of one value is decoding the draft that it spells. -/
theorem decodeText_spelling {α : Type} (decode : Nat → Draft → Except Error α) {d : Draft}
    {b cs b' : List Char} (hb : Blanks b) (h : Spelling d cs) (hb' : Blanks b') :
    decodeText decode (String.ofList (b ++ (cs ++ b'))) = decode nestingLimit d := by
  have hsketch := readText_spelling hb h hb'
  have hrest : skipSpace b' = [] := by
    rw [← List.append_nil b']
    exact skipSpace_blanks hb' []
  simp only [decodeText, String.toList_ofList, hsketch]
  cases decode nestingLimit d with
  | error e => rfl
  | ok v => simp [atEnd, hrest]

end ResourceQuery.Json
