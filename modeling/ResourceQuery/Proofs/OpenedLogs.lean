import ResourceQuery.Command.LogFile
import ResourceQuery.Proofs.Results

namespace ResourceQuery.Command.Directory

variable {d d' : Directory}

/-- What lies above a directory is a directory. -/
theorem isDirectory_of_prefix {p q : Path} (h : q <+: p) (hp : d.isDirectory p = true) :
    d.isDirectory q = true := by
  simp only [isDirectory, Bool.or_eq_true, Bool.and_eq_true, List.any_eq_true, beq_iff_eq,
    List.isPrefixOf_iff_prefix, decide_eq_true_eq] at hp ⊢
  rcases hp with ((hroot | hup) | ⟨f, hf, hpf⟩) | ⟨f, hf, hpf, hlength⟩
  · subst hroot
    cases q with
    | nil => exact .inl (.inl (.inr rfl))
    | cons name names =>
      obtain ⟨rfl, hnames⟩ := List.cons_prefix_cons.mp h
      cases List.prefix_nil.mp hnames
      exact .inl (.inl (.inl rfl))
  · rw [List.all_eq_true] at hup
    exact .inl (.inl (.inr (List.all_eq_true.mpr fun name hname => hup name (h.subset hname))))
  · exact .inl (.inr ⟨f, hf, h.trans hpf⟩)
  · exact .inr ⟨f, hf, h.trans hpf, Nat.lt_of_le_of_lt h.length_le hlength⟩

/-- All places above are directories. -/
def Reachable (d : Directory) (p : Path) : Prop :=
  ∀ q, q <+: p → q ≠ p → d.isDirectory q = true

theorem reachable_of_isDirectory {p : Path} (h : d.isDirectory p = true) : d.Reachable p :=
  fun _ hq _ => isDirectory_of_prefix hq h

theorem reachable_below {p : Path} (h : d.isDirectory p = true) (name : String) :
    d.Reachable (p ++ [name]) := by
  intro q hq hne
  rcases List.prefix_concat_iff.mp hq with heq | hprefix
  · exact absurd heq hne
  · exact isDirectory_of_prefix hprefix h

theorem isDirectory_parent {p : Path} (h : d.isDirectory p = true) :
    d.isDirectory p.parent = true := by
  unfold Path.parent
  split
  next => rfl
  next =>
    split
    next hup =>
      have hall : (p ++ [".."]).all (· == "..") = true := by simpa using hup
      simp [isDirectory, hall]
    next => exact isDirectory_of_prefix (List.dropLast_prefix p) h

theorem isDirectory_of_walk {p q : Path} {name : String} {names : List String}
    (h : d.walk p (name :: names) = .ok q) : d.isDirectory p = true := by
  by_cases hp : d.isDirectory p = true
  · exact hp
  · simp [walk, hp] at h

theorem walk_reachable {p q : Path} {names : List String} (hp : d.Reachable p)
    (h : d.walk p names = .ok q) : d.Reachable q := by
  induction names generalizing p with
  | nil =>
    cases h
    exact hp
  | cons name names ih =>
    have hdir := isDirectory_of_walk h
    rw [walk] at h
    split at h
    next => cases h
    next =>
      split at h
      next => exact ih hp h
      next =>
        split at h
        next => exact ih (reachable_of_isDirectory (isDirectory_parent hdir)) h
        next =>
          split at h
          next => cases h
          next => exact ih (reachable_below hdir name) h

theorem reachable_startOf (s : String) : d.Reachable (startOf s) := by
  refine reachable_of_isDirectory ?_
  unfold startOf
  split <;> simp [isDirectory]

theorem locate_reachable {s : String} {p : Path} (h : d.locate s = .ok p) : d.Reachable p := by
  obtain ⟨u, -, hw⟩ := bind_ok_iff.mp h
  exact walk_reachable (reachable_startOf s) hw

/-- The way to a place stays as long as directories do. -/
theorem walk_of_directories (hdirs : ∀ p, d.isDirectory p = true → d'.isDirectory p = true)
    {p q : Path} {names : List String} (hw : d.walk p names = .ok q) : d'.walk p names = .ok q := by
  induction names generalizing p with
  | nil => exact hw
  | cons name names ih =>
    have hp := isDirectory_of_walk hw
    have hp' := hdirs p hp
    simp only [Directory.walk, hp, hp', Bool.not_true, Bool.false_eq_true, if_false] at hw ⊢
    by_cases hidle : isIdle name = true
    · rw [if_pos hidle] at hw ⊢
      exact ih hw
    rw [if_neg hidle] at hw ⊢
    by_cases hup : name = ".."
    · rw [if_pos hup] at hw ⊢
      exact ih hw
    rw [if_neg hup] at hw ⊢
    by_cases hlong : mostNameBytes < name.utf8ByteSize
    · rw [if_pos hlong] at hw
      cases hw
    · rw [if_neg hlong] at hw ⊢
      exact ih hw

theorem locate_of_directories (hdirs : ∀ p, d.isDirectory p = true → d'.isDirectory p = true)
    {s : String} {p : Path} (h : d.locate s = .ok p) : d'.locate s = .ok p := by
  obtain ⟨u, hcheck, hw⟩ := bind_ok_iff.mp h
  exact bind_ok_iff.mpr ⟨u, hcheck, walk_of_directories hdirs hw⟩

theorem read_ok_iff {s : String} {source : Source} :
    d.read s = .ok source ↔
      ∃ p, d.locate s = .ok p ∧ ¬ d.isDirectory p = true ∧ d.files.lookup p = some source := by
  rw [read, bind_ok_iff]
  refine exists_congr fun p => and_congr_right fun _ => ?_
  by_cases hp : d.isDirectory p = true
  · simp [hp]
  · cases d.files.lookup p <;> simp [hp]

/-- The files are the same, and no directory has taken the place of a file. -/
structure Grows (d d' : Directory) : Prop where
  files : d'.files = d.files
  directories : ∀ p, d.isDirectory p = true → d'.isDirectory p = true
  apart : ∀ p, d.isFile p = true → d'.isDirectory p = true → d.isDirectory p = true

theorem Grows.refl (d : Directory) : Grows d d :=
  ⟨rfl, fun _ hp => hp, fun _ _ hp => hp⟩

theorem Grows.trans {d'' : Directory} (h : Grows d d') (h' : Grows d' d'') : Grows d d'' := by
  refine ⟨h'.files.trans h.files, fun p hp => h'.directories p (h.directories p hp), ?_⟩
  intro p hfile hp
  have hfile' : d'.isFile p = true := by rw [isFile, h.files, ← isFile, hfile]
  exact h.apart p hfile (h'.apart p hfile' hp)

/-- What can be read stays as it is. -/
theorem Grows.read (h : Grows d d') {s : String} {source : Source} (hr : d.read s = .ok source) :
    d'.read s = .ok source := by
  obtain ⟨p, hp, hplain, hfile⟩ := read_ok_iff.mp hr
  refine read_ok_iff.mpr ⟨p, locate_of_directories h.directories hp, ?_, by rw [h.files, hfile]⟩
  intro hp'
  exact hplain (h.apart p (by simp [isFile, hfile]) hp')

theorem isDirectory_make (d : Directory) (made p : Path) :
    ({ d with folders := made :: d.folders } : Directory).isDirectory p = true ↔
      p <+: made ∨ d.isDirectory p = true := by
  simp only [isDirectory, List.any_cons, Bool.or_eq_true, List.isPrefixOf_iff_prefix]
  tauto

theorem makeOne_grows {start : Path} {names : List String} (h : d.makeOne start names = .ok d') :
    Grows d d' := by
  unfold makeOne at h
  split at h
  next => cases h
  next name above _ =>
    obtain ⟨p, hp, h⟩ := bind_ok_iff.mp h
    obtain ⟨made, hmade, h⟩ := bind_ok_iff.mp h
    split at h
    next => cases h
    next hfree =>
      split at h
      next => cases h
      next =>
        cases h
        refine ⟨rfl, fun q hq => (isDirectory_make d made q).mpr (.inr hq), ?_⟩
        intro q hfile hq
        rcases (isDirectory_make d made q).mp hq with hprefix | hq
        · have hne : q ≠ made := by
            intro heq
            subst heq
            exact hfree (.inr (.inr (.inr hfile)))
          have hreach := walk_reachable (reachable_of_isDirectory (isDirectory_of_walk hmade)) hmade
          exact hreach q hprefix hne
        · exact hq

theorem makeOrKeep_grows {start : Path} {names : List String}
    (h : d.makeOrKeep start names = .ok d') : Grows d d' := by
  unfold makeOrKeep at h
  split at h
  next made hmade =>
    cases h
    exact makeOne_grows hmade
  next e _ =>
    split at h
    next =>
      cases h
      exact .refl d
    next => cases h

theorem makeAlong_grows {fuel : Nat} {start : Path} {names : List String}
    (h : d.makeAlong start fuel names = .ok d') : Grows d d' := by
  induction fuel generalizing d d' names with
  | zero =>
    cases h
    exact .refl d
  | succ fuel ih =>
    rw [makeAlong] at h
    split at h
    next =>
      cases h
      exact .refl d
    next =>
      split at h
      next =>
        obtain ⟨above, habove, h⟩ := bind_ok_iff.mp h
        exact (ih habove).trans (makeOrKeep_grows h)
      next => exact makeOrKeep_grows h

theorem make_grows {s : String} (h : d.make s = .ok d') : Grows d d' := by
  unfold make at h
  split at h
  next =>
    cases h
    exact .refl d
  next =>
    obtain ⟨u, -, h⟩ := bind_ok_iff.mp h
    exact makeAlong_grows h

/-- A file in a directory that is there makes no directory. -/
theorem isDirectory_put {p : Path} (hp : d.Reachable p) (source : Source) (q : Path) :
    ({ d with files := (p, source) :: d.files } : Directory).isDirectory q = d.isDirectory q := by
  rw [Bool.eq_iff_iff]
  have habove : q <+: p → q.length < p.length → d.isDirectory q = true := by
    intro hprefix hlength
    refine hp q hprefix ?_
    intro heq
    rw [heq] at hlength
    exact Nat.lt_irrefl _ hlength
  simp only [isDirectory, List.any_cons, Bool.or_eq_true, Bool.and_eq_true, decide_eq_true_eq,
    List.isPrefixOf_iff_prefix] at habove ⊢
  tauto

/-- One file is changed at most, or made in a directory that is there. -/
theorem append_ok {s text : String} (h : d.append s text = .ok d') :
    ∃ p, d.locate s = .ok p ∧ (∀ q, d'.isDirectory q = d.isDirectory q) ∧
      ∀ q, q ≠ p → d'.files.lookup q = d.files.lookup q := by
  obtain ⟨p, hp, h⟩ := bind_ok_iff.mp h
  have hput (source : Source) : ∀ q, q ≠ p →
      ((p, source) :: d.files).lookup q = d.files.lookup q := by
    intro q hq
    rw [List.lookup_cons, beq_false_of_ne hq]
  have hreach := locate_reachable hp
  refine ⟨p, hp, ?_⟩
  split at h
  next => cases h
  next =>
    split at h
    next before _ =>
      cases h
      exact ⟨isDirectory_put hreach _, hput _⟩
    next =>
      cases h
      exact ⟨fun _ => rfl, fun _ _ => rfl⟩
    next =>
      split at h
      next => cases h
      next =>
        cases h
        exact ⟨isDirectory_put hreach _, hput _⟩

/-- What can be read stays as it is, but for the log file. -/
theorem openLog_read {now : Time.Instant} {directory : String} {events : List Log.Event}
    (h : d.openLog now directory events = .ok d') {s : String} {source : Source}
    (hr : d.read s = .ok source)
    (hne : ∀ made, d.make directory = .ok made →
      made.locate s ≠ made.locate (logPath now directory)) :
    d'.read s = .ok source := by
  obtain ⟨made, hmade, h⟩ := bind_ok_iff.mp h
  rw [mapError_ok_iff] at hmade h
  obtain ⟨p, hp, hdirs, hfiles⟩ := append_ok h
  obtain ⟨q, hq, hplain, hfile⟩ := read_ok_iff.mp ((make_grows hmade).read hr)
  have hother : q ≠ p := by
    intro heq
    exact hne made hmade (by rw [hq, hp, heq])
  have hq' : d'.locate s = .ok q := locate_of_directories (fun r hr => (hdirs r).trans hr) hq
  refine read_ok_iff.mpr ⟨q, hq', ?_, (hfiles q hother).trans hfile⟩
  rw [hdirs]
  exact hplain

end ResourceQuery.Command.Directory
