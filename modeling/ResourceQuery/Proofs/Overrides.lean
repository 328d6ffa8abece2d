import Mathlib
import ResourceQuery.Config.Basic

namespace ResourceQuery

/-- The text says a truth value, in any case of letters and with blanks around it. -/
def FlagText (text : String) (flag : Bool) : Prop :=
  String.ofList (Text.lowerAscii (Text.trim text.toList)) ∈
    if flag then ["1", "true", "yes", "on"] else ["0", "false", "no", "off"]

/-- The variables of `later`, and behind them those of `earlier`. -/
def Environment.over (later earlier : Environment) : Environment :=
  fun name => (later name).or (earlier name)

/-- The flag in force, unless its variable is set to a value without meaning. -/
def Environment.flag? (env : Environment) (flag : Bool) : Option Bool :=
  match env suppressVariable with
  | some value => flagOf? value
  | none => some flag

/-- Settings that are as they were, but for those of which the variable is set. -/
structure Config.Overridden (c : Config) (env : Environment) (c' : Config) : Prop where
  flag_set : ∀ value, env suppressVariable = some value →
    FlagText value c'.compiler.suppressIdentifierSort
  flag_kept : env suppressVariable = none →
    c'.compiler.suppressIdentifierSort = c.compiler.suppressIdentifierSort
  level : c'.logging.level = (env "RUST_LOG").getD c.logging.level
  format : c'.logging.format = (env "LOG_FORMAT").getD c.logging.format
  output : c'.logging.output = (env "LOG_OUTPUT").getD c.logging.output
  directory : c'.logging.directory = (env "LOG_DIR").getD c.logging.directory

theorem flagText_unique {text : String} {flag flag' : Bool} (h : FlagText text flag)
    (h' : FlagText text flag') : flag = flag' := by
  have hapart {word : String} (hyes : word ∈ ["1", "true", "yes", "on"]) :
      word ∉ ["0", "false", "no", "off"] := by
    simp only [List.mem_cons, List.not_mem_nil, or_false] at hyes
    rcases hyes with rfl | rfl | rfl | rfl <;> decide
  cases flag with
  | true =>
    cases flag' with
    | true => rfl
    | false => exact absurd h' (hapart h)
  | false =>
    cases flag' with
    | true => exact absurd h (hapart h')
    | false => rfl

theorem flagOf_iff {text : String} {flag : Bool} :
    flagOf? text = some flag ↔ FlagText text flag := by
  have hread : ∀ b, flagOf? text = some b → FlagText text b := by
    intro b h
    simp only [flagOf?, List.contains_eq_mem, decide_eq_true_eq] at h
    split at h
    next hyes =>
      cases h
      exact hyes
    next =>
      split at h
      next hno =>
        cases h
        exact hno
      next => cases h
  refine ⟨hread flag, ?_⟩
  intro h
  cases hflag : flagOf? text with
  | some b => rw [flagText_unique (hread b hflag) h]
  | none =>
    simp only [flagOf?, List.contains_eq_mem, decide_eq_true_eq] at hflag
    split at hflag
    next => cases hflag
    next hyes =>
      split at hflag
      next => cases hflag
      next hno =>
        cases flag with
        | true => exact absurd h hyes
        | false => exact absurd h hno

theorem flagOf_none_iff {text : String} : flagOf? text = none ↔ ∀ flag, ¬ FlagText text flag := by
  simp only [Option.eq_none_iff_forall_ne_some, ne_eq, flagOf_iff]

section

variable {env : Environment} {c c' : Config}

theorem run_whenSet_flag {flag : Bool} (h : env.flag? c.compiler.suppressIdentifierSort = some flag) :
    (whenSet env suppressVariable (Options.assignFlag suppressVariable)).run c =
      .ok () { c with compiler := ⟨flag⟩ } := by
  unfold Environment.flag? at h
  cases hset : env suppressVariable with
  | none =>
    rw [hset] at h
    cases h
    rw [whenSet, hset]
    rfl
  | some value =>
    rw [hset] at h
    simp only [whenSet, hset, Options.assignFlag, h]
    rfl

theorem run_whenSet_log (name : String) (put : LogSettings → String → LogSettings) :
    (whenSet env name (LogSettings.assign put)).run c =
      .ok () { c with logging := (env name).elim c.logging (put c.logging) } := by
  cases h : env name with
  | none =>
    rw [whenSet, h]
    rfl
  | some value =>
    rw [whenSet, h]
    rfl

theorem applyOverrides_of_flag {flag : Bool}
    (h : env.flag? c.compiler.suppressIdentifierSort = some flag) :
    (Config.applyOverrides env).run c = .ok () ⟨⟨flag⟩, c.logging.override env⟩ := by
  simp only [Config.applyOverrides, EStateM.run_bind, run_whenSet_flag h, run_whenSet_log]
  rw [LogSettings.override]
  cases env "RUST_LOG" <;> cases env "LOG_FORMAT" <;> cases env "LOG_OUTPUT" <;>
    cases env "LOG_DIR" <;> rfl

/-- A value without meaning is met before anything has been changed. -/
theorem applyOverrides_of_bad {value : String} (hset : env suppressVariable = some value)
    (hbad : flagOf? value = none) :
    (Config.applyOverrides env).run c = .error ⟨suppressVariable, value⟩ c := by
  rw [Config.applyOverrides, EStateM.run_bind]
  simp only [whenSet, hset, Options.assignFlag, hbad]
  rfl

/-- All that overriding can do. -/
theorem applyOverrides_cases (env : Environment) (c : Config) :
    (∃ flag, env.flag? c.compiler.suppressIdentifierSort = some flag ∧
      (Config.applyOverrides env).run c = .ok () ⟨⟨flag⟩, c.logging.override env⟩) ∨
    ∃ value, env suppressVariable = some value ∧ flagOf? value = none ∧
      (Config.applyOverrides env).run c = .error ⟨suppressVariable, value⟩ c := by
  cases hflag : env.flag? c.compiler.suppressIdentifierSort with
  | some flag => exact .inl ⟨flag, rfl, applyOverrides_of_flag hflag⟩
  | none =>
    unfold Environment.flag? at hflag
    cases hset : env suppressVariable with
    | none => simp [hset] at hflag
    | some value =>
      have hbad : flagOf? value = none := by simpa [hset] using hflag
      exact .inr ⟨value, rfl, hbad, applyOverrides_of_bad hset hbad⟩

theorem flag_iff {flag flag' : Bool} :
    env.flag? flag = some flag' ↔
      (∀ value, env suppressVariable = some value → FlagText value flag') ∧
        (env suppressVariable = none → flag' = flag) := by
  unfold Environment.flag?
  cases env suppressVariable with
  | none => simp [eq_comm]
  | some value => simp [flagOf_iff]

theorem applyOverrides_ok_iff :
    (Config.applyOverrides env).run c = .ok () c' ↔ c.Overridden env c' := by
  constructor
  · intro h
    rcases applyOverrides_cases env c with ⟨flag, hflag, hrun⟩ | ⟨value, -, -, hrun⟩
    · rw [hrun] at h
      cases h
      obtain ⟨hset, hkept⟩ := flag_iff.mp hflag
      exact ⟨hset, hkept, rfl, rfl, rfl, rfl⟩
    · rw [hrun] at h
      cases h
  · intro ⟨hset, hkept, hlevel, hformat, houtput, hdirectory⟩
    rw [applyOverrides_of_flag (flag_iff.mpr ⟨hset, hkept⟩), LogSettings.override, ← hlevel,
      ← hformat, ← houtput, ← hdirectory]

theorem applyOverrides_error_iff {e : InvalidVariable} :
    (Config.applyOverrides env).run c = .error e c' ↔
      e.name = suppressVariable ∧ env suppressVariable = some e.value ∧
        (∀ flag, ¬ FlagText e.value flag) ∧ c' = c := by
  rw [← flagOf_none_iff]
  constructor
  · intro h
    rcases applyOverrides_cases env c with ⟨flag, -, hrun⟩ | ⟨value, hset, hbad, hrun⟩
    · rw [hrun] at h
      cases h
    · rw [hrun] at h
      cases h
      exact ⟨rfl, hset, hbad, rfl⟩
  · obtain ⟨name, value⟩ := e
    rintro ⟨rfl, hset, hbad, rfl⟩
    exact applyOverrides_of_bad hset hbad

end

theorem Config.Overridden.trans {earlier later : Environment} {c c₁ c₂ : Config}
    (h₁ : c.Overridden earlier c₁) (h₂ : c₁.Overridden later c₂) :
    c.Overridden (later.over earlier) c₂ where
  flag_set := by
    intro value hset
    unfold Environment.over at hset
    cases hlater : later suppressVariable with
    | some value' =>
      rw [hlater] at hset
      cases hset
      exact h₂.flag_set _ hlater
    | none =>
      rw [hlater] at hset
      rw [h₂.flag_kept hlater]
      exact h₁.flag_set value hset
  flag_kept := by
    intro hunset
    obtain ⟨hlater, hearlier⟩ := Option.or_eq_none_iff.mp hunset
    rw [h₂.flag_kept hlater, h₁.flag_kept hearlier]
  level := by rw [h₂.level, h₁.level, ← Option.getD_or, Environment.over]
  format := by rw [h₂.format, h₁.format, ← Option.getD_or, Environment.over]
  output := by rw [h₂.output, h₁.output, ← Option.getD_or, Environment.over]
  directory := by rw [h₂.directory, h₁.directory, ← Option.getD_or, Environment.over]

/-- Whether the variables apply does not depend on the settings. -/
theorem applies_to_all {env : Environment} {c c' : Config}
    (h : (Config.applyOverrides env).run c = .ok () c') (d : Config) :
    ∃ d', (Config.applyOverrides env).run d = .ok () d' := by
  rcases applyOverrides_cases env d with ⟨flag, -, hrun⟩ | ⟨value, hset, hbad, -⟩
  · exact ⟨_, hrun⟩
  · rw [applyOverrides_of_bad hset hbad] at h
    cases h

theorem applyOverrides_twice {earlier later : Environment} {c c₁ c₂ : Config}
    (h₁ : (Config.applyOverrides earlier).run c = .ok () c₁)
    (h₂ : (Config.applyOverrides later).run c = .ok () c₂) :
    EStateM.run (do Config.applyOverrides earlier; Config.applyOverrides later) c =
      (Config.applyOverrides (later.over earlier)).run c := by
  obtain ⟨c₃, h₃⟩ := applies_to_all h₂ c₁
  have hboth := (applyOverrides_ok_iff.mp h₁).trans (applyOverrides_ok_iff.mp h₃)
  rw [EStateM.run_bind, h₁, applyOverrides_ok_iff.mpr hboth]
  exact h₃

/-- Overriding fails exactly if the variable of the flag is set to a text that says no truth value,
and then the settings are as they were; otherwise each setting becomes the value of its variable, if
that is set, and stays as it was, if not. Variables that apply and others that apply after them do
what the later ones do with the earlier ones behind them; and to apply variables twice is to apply
them once. -/
theorem overrides_atomic_and_composable :
    (∀ (env : Environment) (c : Config),
      (∀ e c', (Config.applyOverrides env).run c = .error e c' ↔
        e.name = "RESQ_SUPPRESS_ID_SORT" ∧ env "RESQ_SUPPRESS_ID_SORT" = some e.value ∧
          (∀ flag, ¬ FlagText e.value flag) ∧ c' = c) ∧
      ∀ c', (Config.applyOverrides env).run c = .ok () c' ↔ c.Overridden env c') ∧
    (∀ (earlier later : Environment) (c c₁ c₂ : Config),
      (Config.applyOverrides earlier).run c = .ok () c₁ →
      (Config.applyOverrides later).run c = .ok () c₂ →
        EStateM.run (do Config.applyOverrides earlier; Config.applyOverrides later) c =
          (Config.applyOverrides (later.over earlier)).run c) ∧
    ∀ (env : Environment) (c : Config),
      EStateM.run (do Config.applyOverrides env; Config.applyOverrides env) c =
        (Config.applyOverrides env).run c := by
  refine ⟨?_, ?_, ?_⟩
  · intro env c
    exact ⟨fun e c' => applyOverrides_error_iff, fun c' => applyOverrides_ok_iff⟩
  · intro earlier later c c₁ c₂ h₁ h₂
    exact applyOverrides_twice h₁ h₂
  · intro env c
    rcases applyOverrides_cases env c with ⟨flag, -, hrun⟩ | ⟨value, -, -, hrun⟩
    · have hself : env.over env = env := funext fun name => Option.or_self
      have htwice := applyOverrides_twice hrun hrun
      rwa [hself] at htwice
    · rw [EStateM.run_bind, hrun]

def offToVar : Environment :=
  fun name => [("RESQ_SUPPRESS_ID_SORT", " OFF "), ("LOG_DIR", "/var")].lookup name

def yesInJson : Environment :=
  fun name => [("RESQ_SUPPRESS_ID_SORT", "yes"), ("LOG_FORMAT", "json")].lookup name

/-- The later flag stands, and so does the directory that only the earlier variables name. -/
theorem yesAfterOff_composed :
    (Config.applyOverrides offToVar).run .default =
        .ok () ⟨⟨false⟩, "warn", "compact", "stdout", "/var"⟩ ∧
      (Config.applyOverrides yesInJson).run .default =
        .ok () ⟨⟨true⟩, "warn", "json", "stdout", "./logs"⟩ ∧
      EStateM.run (do Config.applyOverrides offToVar; Config.applyOverrides yesInJson) .default =
        .ok () ⟨⟨true⟩, "warn", "json", "stdout", "/var"⟩ := by
  have hoff : (Config.applyOverrides offToVar).run .default =
      .ok () ⟨⟨false⟩, "warn", "compact", "stdout", "/var"⟩ := by
    rfl
  have hyes : (Config.applyOverrides yesInJson).run .default =
      .ok () ⟨⟨true⟩, "warn", "json", "stdout", "./logs"⟩ := by
    rfl
  refine ⟨hoff, hyes, ?_⟩
  rw [overrides_atomic_and_composable.2.1 _ _ _ _ _ hoff hyes]
  rfl

end ResourceQuery
