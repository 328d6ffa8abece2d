import ResourceQuery.Command.Run
import ResourceQuery.Proofs.OpenedLogs
import ResourceQuery.Proofs.Overrides
import ResourceQuery.Proofs.SearchAndCount

namespace ResourceQuery

namespace EnvFile

variable {env env' : Environment} {name value : String}

theorem assign_of_set (h : env name = some value) {key text : String}
    (hassign : assign? env key text = some env') : env' name = some value := by
  unfold assign? at hassign
  split at hassign
  next =>
    cases hassign
    exact h
  next hfree =>
    split at hassign
    next => cases hassign
    next =>
      cases hassign
      have hne : name ≠ key := by
        intro heq
        rw [heq] at h
        exact hfree (by simp [h])
      simp [hne, h]

theorem readLines_of_set (h : env name = some value) {assigned : List (String × String)}
    {lines : List (Option (List Char))} (hread : readLines env assigned lines = some env') :
    env' name = some value := by
  induction lines generalizing env assigned with
  | nil =>
    cases hread
    exact h
  | cons line lines ih =>
    cases line with
    | none =>
      cases hread
      exact h
    | some line =>
      rw [readLines] at hread
      cases hline : readLine? (fun name => (env name).or (assigned.lookup name)) line with
      | none =>
        rw [hline] at hread
        cases hread
        exact h
      | some said =>
        rw [hline] at hread
        cases said with
        | none => exact ih h hread
        | some assignment =>
          obtain ⟨next, hassign, hread⟩ := Option.bind_eq_some_iff.mp hread
          exact ih (assign_of_set h hassign) hread

/-- The file does not touch a variable that is set. -/
theorem read_of_set (h : env name = some value) {text : String} (hread : read env text = some env') :
    env' name = some value :=
  readLines_of_set h hread

end EnvFile

namespace Command

namespace World

variable (w : World) (c : Invocation)

/-- What a variable is once the file of variables has been read. -/
def fileValue? (name : String) : Option String :=
  (environment w).bind fun env => env name

/-- The value that is set, or else that of the file of variables. -/
def valueOf? (name : String) : Option String :=
  (w.env name).or (w.fileValue? name)

/-- The settings before variables override them: those of the file that the arguments name, or the
defaults if they name none. -/
def settings? : Option Config :=
  match c.config with
  | none => some .default
  | some path =>
    (readText w.files w.stdin path).toOption.bind fun text => (Config.ofText text).toOption

/-- The flag in force, if its variable is not set to a value without meaning. -/
def flag? (o : Options) : Option Bool :=
  match w.valueOf? suppressVariable with
  | some value => flagOf? value
  | none => some o.suppressIdentifierSort

/-- The settings of the log in force. -/
def log (s : Config) : LogSettings :=
  s.logging.override w.valueOf?

/-- The variables and the settings are there, and the flag is in force. -/
structure Settles (w : World) (c : Invocation) (s : Config) (flag : Bool) : Prop where
  loads : (environment w).isSome = true
  settings : w.settings? c = some s
  inForce : w.flag? s.compiler = some flag

/-- The log can be opened, and leads to the files. -/
structure LogOpens (w : World) (s : Config) (log : OpenLog) : Prop where
  level : Log.directives? (w.log s).level = some log.directives
  files : if (LogOutput.ofName (w.log s).output).toFile = true then
      w.openLog (w.log s).directory (openingEvents (w.log s) log.directives) = .ok log.files
    else log.files = w.files

/-- The text of the input, if it can be read from what stands in the files. -/
def inputText? (files : Files) : Option String :=
  if c.input = "-" then (decodeUtf8 (inputBehind w c)).toOption
  else (readText files (inputBehind w c) c.input).toOption

def layer? (files : Files) : Option Layer :=
  (w.inputText? c files).bind fun text => (Layer.parse text).toOption

end World

/-- What a command makes of a layer under a flag. -/
def Invocation.output? (c : Invocation) (flag : Bool) (l : Layer) : Option String :=
  let index := c.index.getD l.resource
  match c.verb with
  | .search =>
    ((Options.mk flag).translate index l).toOption.map fun r =>
      "POST /" ++ index ++ "/_search\n" ++ r.encode
  | .count =>
    (countRequest index l.filter).toOption.map fun r => "POST /" ++ index ++ "/_count\n" ++ r.encode
  | .fingerprint => some l.fingerprint

/-- The input can be read, once the log is open, as a layer that compiles to the output. -/
inductive World.Prints (w : World) (c : Invocation) (out : String) : Prop where
  | mk {s : Config} {flag : Bool} {log : OpenLog} {l : Layer} (settles : w.Settles c s flag)
      (opens : w.LogOpens s log) (reads : w.layer? c log.files = some l)
      (compiles : c.output? flag l = some out) : Prints w c out

/-- The program breaks off: at a variable that should hold a zero, at a filter that tears a character,
or at a log file that cannot be opened in its directory. -/
inductive World.Aborts (w : World) (c : Invocation) : Prop where
  | loading (h : environment w = none) : Aborts w c
  | filter {s : Config} {flag : Bool} (settles : w.Settles c s flag)
      (h : Log.directives? (w.log s).level = none) : Aborts w c
  | logFile {s : Config} {flag : Bool} {ds : List Log.Directive} {e : FileError}
      (settles : w.Settles c s flag) (level : Log.directives? (w.log s).level = some ds)
      (toFile : (LogOutput.ofName (w.log s).output).toFile = true)
      (h : w.openLog (w.log s).directory (openingEvents (w.log s) ds) = .error (.file e)) :
      Aborts w c

theorem environment_eq {w : World} {env : Environment} (h : environment w = some env) :
    env = w.valueOf? := by
  funext name
  rw [World.valueOf?, World.fileValue?, h, Option.bind_some]
  cases hset : w.env name with
  | none => rfl
  | some value => exact EnvFile.read_of_set hset h

theorem override_ok_iff {s config : Config} {env : Environment} :
    s.override env = .ok config ↔
      ∃ flag, (match env suppressVariable with
          | some value => flagOf? value
          | none => some s.compiler.suppressIdentifierSort) = some flag ∧
        config = ⟨⟨flag⟩, s.logging.override env⟩ := by
  have hoverride (c : Config) : s.override env = .ok c ↔
      (Config.applyOverrides env).run s = .ok () c := by
    unfold Config.override
    cases (Config.applyOverrides env).run s <;> simp
  rw [hoverride]
  constructor
  · intro h
    rcases applyOverrides_cases env s with ⟨flag, hflag, hrun⟩ | ⟨value, -, -, hrun⟩
    · rw [hrun] at h
      cases h
      exact ⟨flag, hflag, rfl⟩
    · rw [hrun] at h
      cases h
  · rintro ⟨flag, hflag, rfl⟩
    exact applyOverrides_of_flag hflag

section

variable {w : World} {c : Invocation}

theorem loadConfig_ok_iff {config : Config} :
    loadConfig w w.valueOf? c.config = .ok config ↔
      ∃ s flag, w.settings? c = some s ∧ w.flag? s.compiler = some flag ∧
        config = ⟨⟨flag⟩, w.log s⟩ := by
  unfold loadConfig World.settings?
  cases c.config with
  | none => simp [mapError_ok_iff, Config.ofEnvironment, override_ok_iff, World.flag?, World.log]
  | some path =>
    cases htext : readText w.files w.stdin path with
    | error e => simp [htext, Except.toOption]
    | ok text =>
      have hload : Config.load text w.valueOf? = .ok config ↔
          ∃ s, Config.ofText text = .ok s ∧ s.override w.valueOf? = .ok config := by
        simp only [Config.load, bind_ok_iff, mapError_ok_iff]
      have hsettings (s : Config) :
          ((Except.ok text : Except FileError String).toOption.bind fun text =>
            (Config.ofText text).toOption) = some s ↔ Config.ofText text = .ok s :=
        toOption_eq_some_iff
      simp only [htext, mapError_ok_iff, hload, hsettings, override_ok_iff, World.flag?, World.log,
        exists_and_left]

theorem settle_of_settles {s : Config} {flag : Bool} (hc : parse w.args = .ok c)
    (h : w.Settles c s flag) : settle w = .ok (c, ⟨⟨flag⟩, w.log s⟩) := by
  obtain ⟨env, henv⟩ := Option.isSome_iff_exists.mp h.loads
  have hload := loadConfig_ok_iff.mpr ⟨s, flag, h.settings, h.inForce, rfl⟩
  rw [← environment_eq henv] at hload
  rw [settle, henv]
  refine bind_ok_iff.mpr ⟨c, mapError_ok_iff.mpr hc, ?_⟩
  exact bind_ok_iff.mpr ⟨_, mapError_ok_iff.mpr hload, rfl⟩

/-- Without settings the program ends with an error, unless it has broken off before. -/
theorem settle_cases (hc : parse w.args = .ok c) :
    (∃ s flag, w.Settles c s flag) ∨ environment w = none ∨ ∃ r, settle w = .error (failed r) := by
  cases henv : environment w with
  | none => exact .inr (.inl rfl)
  | some env =>
    have hloads : (environment w).isSome = true := by rw [henv, Option.isSome_some]
    cases hload : loadConfig w env c.config with
    | error r =>
      have hfailed : settle w = .error (failed r) := by
        simp [settle, henv, hc, hload, Except.mapError, bind, Except.bind]
      exact .inr (.inr ⟨r, hfailed⟩)
    | ok config =>
      rw [environment_eq henv] at hload
      obtain ⟨s, flag, hsettings, hforce, -⟩ := loadConfig_ok_iff.mp hload
      exact .inl ⟨s, flag, hloads, hsettings, hforce⟩

theorem startLogging_ok_iff {s : Config} {log : OpenLog} :
    startLogging w (w.log s) = .ok log ↔ w.LogOpens s log := by
  constructor
  · intro h
    unfold startLogging at h
    split at h
    next => cases h
    next ds hlevel =>
      split at h
      next hfile =>
        split at h
        next files hopen =>
          cases h
          exact ⟨hlevel, by rw [if_pos hfile, hopen]⟩
        next => cases h
        next => cases h
      next hfile =>
        cases h
        exact ⟨hlevel, by rw [if_neg hfile]⟩
  · intro h
    obtain ⟨hlevel, hfiles⟩ := h
    rw [startLogging, hlevel]
    by_cases hfile : (LogOutput.ofName (w.log s).output).toFile = true
    · rw [if_pos hfile] at hfiles
      simp [hfile, hfiles]
    · rw [if_neg hfile] at hfiles
      simp [hfile, ← hfiles]

theorem startLogging_cases {s : Config} {flag : Bool} (h : w.Settles c s flag) :
    (∃ log, w.LogOpens s log) ∨ w.Aborts c ∨
      ∃ r, startLogging w (w.log s) = .error (failed r) := by
  cases hstart : startLogging w (w.log s) with
  | ok log => exact .inl ⟨log, startLogging_ok_iff.mp hstart⟩
  | error ending =>
    unfold startLogging at hstart
    split at hstart
    next hlevel =>
      cases hstart
      exact .inr (.inl (.filter h hlevel))
    next ds hlevel =>
      split at hstart
      next hfile =>
        split at hstart
        next => cases hstart
        next =>
          cases hstart
          exact .inr (.inr ⟨_, rfl⟩)
        next e hopen =>
          cases hstart
          exact .inr (.inl (.logFile h hlevel hfile hopen))
      next => cases hstart

theorem readLayer_ok_iff {files : Files} {l : Layer} :
    readLayer files (inputBehind w c) c.input = .ok l ↔ w.layer? c files = some l := by
  unfold readLayer World.layer? World.inputText?
  by_cases hinput : c.input = "-"
  · simp [hinput, bind_ok_iff, mapError_ok_iff, toOption_eq_some_iff, Option.bind_eq_some_iff]
  · simp [hinput, bind_ok_iff, mapError_ok_iff, toOption_eq_some_iff, Option.bind_eq_some_iff]

theorem render_ok_iff {flag : Bool} {l : Layer} {out : String} :
    render c ⟨flag⟩ l = .ok out ↔ c.output? flag l = some out := by
  unfold render Invocation.output? indexOf
  cases c.verb with
  | fingerprint => simp
  | search =>
    cases hrequest : (Options.mk flag).translate (c.index.getD l.resource) l with
    | error e => simp [hrequest, Except.toOption]
    | ok r =>
      obtain ⟨query, clauses, -, -, rfl⟩ := search_ok_iff.mp hrequest
      simp [hrequest, Except.toOption]
  | count =>
    cases hrequest : countRequest (c.index.getD l.resource) l.filter with
    | error e => simp [hrequest, Except.toOption]
    | ok r =>
      obtain ⟨query, -, rfl⟩ := count_ok_iff.mp hrequest
      simp [hrequest, Except.toOption]

theorem run_of_started {s : Config} {flag : Bool} {log : OpenLog} (hc : parse w.args = .ok c)
    (h : w.Settles c s flag) (hstart : startLogging w (w.log s) = .ok log) :
    run w = execute log (inputBehind w c) c ⟨⟨flag⟩, w.log s⟩ := by
  simp only [run, settle_of_settles hc h, hstart]

theorem run_of_stopped {s : Config} {flag : Bool} {ending : Ending} (hc : parse w.args = .ok c)
    (h : w.Settles c s flag) (hstart : startLogging w (w.log s) = .error ending) :
    run w = ending := by
  simp only [run, settle_of_settles hc h, hstart]

theorem run_of_prints {out : String} (hc : parse w.args = .ok c) (h : w.Prints c out) :
    (run w).exit = 0 ∧ (run w).stdout = out ++ "\n" := by
  obtain ⟨settles, opens, reads, compiles⟩ := h
  have hread := readLayer_ok_iff.mpr reads
  have hrender := render_ok_iff.mpr compiles
  rw [run_of_started hc settles (startLogging_ok_iff.mpr opens)]
  simp [execute, hread, hrender, finish]

theorem run_of_aborts (hc : parse w.args = .ok c) (h : w.Aborts c) : run w = aborted := by
  cases h with
  | loading h => simp [run, settle, h]
  | filter settles h => exact run_of_stopped hc settles (by simp [startLogging, h])
  | logFile settles level toFile h =>
    exact run_of_stopped hc settles (by simp [startLogging, level, toFile, h])

/-- A run that prints nothing and does not break off ends with an error. -/
theorem run_of_silent (hc : parse w.args = .ok c) (hprints : ∀ out, ¬ w.Prints c out)
    (haborts : ¬ w.Aborts c) : (run w).exit = 1 ∧ (run w).stdout = "" := by
  rcases settle_cases hc with ⟨s, flag, settles⟩ | hloading | ⟨r, hsettle⟩
  · rcases startLogging_cases settles with ⟨log, opens⟩ | habort | ⟨r, hstart⟩
    · rw [run_of_started hc settles (startLogging_ok_iff.mpr opens)]
      cases hread : readLayer log.files (inputBehind w c) c.input with
      | error r => simp [execute, hread, finish]
      | ok l =>
        cases hrender : render c ⟨flag⟩ l with
        | error r => simp [execute, hread, hrender, finish]
        | ok out =>
          exact absurd ⟨settles, opens, readLayer_ok_iff.mp hread, render_ok_iff.mp hrender⟩
            (hprints out)
    · exact absurd habort haborts
    · rw [run_of_stopped hc settles hstart]
      exact ⟨rfl, rfl⟩
  · exact absurd (.loading hloading) haborts
  · simp [run, hsettle, failed, withoutLog]

end

def logVariables : List String :=
  ["RUST_LOG", "LOG_FORMAT", "LOG_OUTPUT", "LOG_DIR"]

namespace World

/-- The program does not break off at a variable, the log can be opened, and what the input holds is
not changed by that. -/
structure LogStandsApart (w : World) (c : Invocation) : Prop where
  loads : (environment w).isSome = true
  opens : ∀ s flag, w.Settles c s flag → ∃ log, w.LogOpens s log
  keeps : ∀ s flag log, w.Settles c s flag → w.LogOpens s log →
    w.inputText? c log.files = w.inputText? c w.files

/-- The runs differ in the variables of the log and in the section of the log in the settings only,
and the file of variables carries none of these over into the flag. -/
structure SameButLog (w w' : World) (c : Invocation) : Prop where
  args : w'.args = w.args
  env : ∀ name, name ∉ logVariables → w'.env name = w.env name
  flag : w'.fileValue? suppressVariable = w.fileValue? suppressVariable
  settings : (w'.settings? c).map Config.compiler = (w.settings? c).map Config.compiler
  input : w'.inputText? c w'.files = w.inputText? c w.files

variable {w w' : World} {c : Invocation}

theorem readText_of_kept {files files' : Files} {path : String}
    (hk : ∀ source, files path = .ok source → files' path = .ok source) {stdin : List UInt8}
    {text : String} (h : readText files stdin path = .ok text) :
    readText files' stdin path = .ok text := by
  unfold readText at h ⊢
  cases hfile : files path with
  | error e =>
    rw [hfile] at h
    cases h
  | ok source =>
    rw [hk source hfile]
    rw [hfile] at h
    exact h

theorem LogStandsApart.not_aborts (hw : w.LogStandsApart c) : ¬ w.Aborts c := by
  intro h
  cases h with
  | loading h => exact absurd hw.loads (by simp [h])
  | filter settles h =>
    obtain ⟨log, opens⟩ := hw.opens _ _ settles
    cases h.symm.trans opens.level
  | logFile settles level toFile h =>
    obtain ⟨log, opens⟩ := hw.opens _ _ settles
    cases level.symm.trans opens.level
    have hfiles := opens.files
    rw [if_pos toFile, h] at hfiles
    cases hfiles

theorem LogStandsApart.prints_iff {out : String} (hw : w.LogStandsApart c) :
    w.Prints c out ↔ ∃ o flag l, (w.settings? c).map Config.compiler = some o ∧
      w.flag? o = some flag ∧ w.layer? c w.files = some l ∧ c.output? flag l = some out := by
  constructor
  · intro h
    obtain ⟨settles, opens, reads, compiles⟩ := h
    rw [layer?, hw.keeps _ _ _ settles opens] at reads
    exact ⟨_, _, _, by rw [settles.settings, Option.map_some], settles.inForce, reads, compiles⟩
  · intro h
    obtain ⟨o, flag, l, hcompiler, inForce, reads, compiles⟩ := h
    obtain ⟨s, settings, rfl⟩ := Option.map_eq_some_iff.mp hcompiler
    have settles : w.Settles c s flag := ⟨hw.loads, settings, inForce⟩
    obtain ⟨log, opens⟩ := hw.opens s flag settles
    refine ⟨settles, opens, ?_, compiles⟩
    rw [layer?, hw.keeps _ _ _ settles opens]
    exact reads

theorem SameButLog.prints_iff {out : String} (h : w.SameButLog w' c) (hw : w.LogStandsApart c)
    (hw' : w'.LogStandsApart c) : w'.Prints c out ↔ w.Prints c out := by
  have hvalue : w'.valueOf? suppressVariable = w.valueOf? suppressVariable := by
    rw [valueOf?, valueOf?, h.env _ (by decide), h.flag]
  have hflag : ∀ o, w'.flag? o = w.flag? o := by
    intro o
    rw [World.flag?, World.flag?, hvalue]
  have hlayer : w'.layer? c w'.files = w.layer? c w.files := by rw [layer?, layer?, h.input]
  simp only [hw.prints_iff, hw'.prints_iff, h.settings, hflag, hlayer]

/-- A command in a directory at some time, with nothing on standard input. -/
def inDirectory (d : Directory) (now : Time.Instant) (args : List String)
    (env : List (String × String)) : World where
  args := args
  env name := env.lookup name
  candidates := [candidateOf (d.read envFileName)]
  files := d.read
  openLog directory events := (d.openLog now directory events).map Directory.read
  stdin := []

variable {d : Directory} {now : Time.Instant} {args : List String} {env : List (String × String)}

theorem inDirectory_keeps {s : Config} {log : OpenLog}
    (h : (inDirectory d now args env).LogOpens s log) {path : String} {source : Source}
    (hfile : d.read path = .ok source)
    (hne : ∀ made, d.make ((inDirectory d now args env).log s).directory = .ok made →
      made.locate path ≠ made.locate (logPath now ((inDirectory d now args env).log s).directory)) :
    log.files path = .ok source := by
  have hfiles := h.files
  split at hfiles
  next =>
    obtain ⟨opened, hopened, hread⟩ := map_ok_iff.mp hfiles
    rw [← hread]
    exact Directory.openLog_read hopened hfile hne
  next =>
    rw [hfiles]
    exact hfile

/-- In a directory the log stands apart from an input that is there and that is not the log file. -/
theorem inDirectory_standsApart {text : String}
    (hloads : (environment (inDirectory d now args env)).isSome = true)
    (hopens : ∀ s flag, (inDirectory d now args env).Settles c s flag →
      ∃ log, (inDirectory d now args env).LogOpens s log)
    (hinput : (inDirectory d now args env).inputText? c d.read = some text)
    (hne : ∀ s made, (inDirectory d now args env).settings? c = some s →
      d.make ((inDirectory d now args env).log s).directory = .ok made →
      made.locate c.input ≠
        made.locate (logPath now ((inDirectory d now args env).log s).directory)) :
    (inDirectory d now args env).LogStandsApart c where
  loads := hloads
  opens := hopens
  keeps s _ log settles opens := by
    refine Eq.trans ?_ hinput.symm
    by_cases hstdin : c.input = "-"
    · simpa only [inputText?, if_pos hstdin] using hinput
    · simp only [inputText?, if_neg hstdin, toOption_eq_some_iff] at hinput ⊢
      refine readText_of_kept (fun source hsource => ?_) hinput
      exact inDirectory_keeps opens hsource fun made => hne s made settles.settings

end World

/-- The run of a command prints the request that the layer compiles to under the flag in force, or
the fingerprint of the layer, and nothing if a stage on the way to it fails. Runs that differ in
their logs only end alike. -/
theorem run_prints_compiled_request (w : World) (c : Invocation) (hc : parse w.args = .ok c) :
    (∀ out, w.Prints c out → (run w).exit = 0 ∧ (run w).stdout = out ++ "\n") ∧
    (w.Aborts c → (run w).exit = 101 ∧ (run w).stdout = "") ∧
    ((∀ out, ¬ w.Prints c out) → ¬ w.Aborts c → (run w).exit = 1 ∧ (run w).stdout = "") ∧
    ∀ w' : World, w.SameButLog w' c → w.LogStandsApart c → w'.LogStandsApart c →
      (run w').exit = (run w).exit ∧ (run w').stdout = (run w).stdout := by
  refine ⟨fun out h => run_of_prints hc h, fun h => ?_, run_of_silent hc, ?_⟩
  · rw [run_of_aborts hc h]
    exact ⟨rfl, rfl⟩
  intro w' h hw hw'
  have hc' : parse w'.args = .ok c := by rw [h.args, hc]
  by_cases hprints : ∃ out, w.Prints c out
  · obtain ⟨out, hout⟩ := hprints
    obtain ⟨hexit, hstdout⟩ := run_of_prints hc hout
    obtain ⟨hexit', hstdout'⟩ := run_of_prints hc' ((h.prints_iff hw hw').mpr hout)
    exact ⟨hexit'.trans hexit.symm, hstdout'.trans hstdout.symm⟩
  · have hsilent : ∀ out, ¬ w.Prints c out := fun out hout => hprints ⟨out, hout⟩
    have hsilent' : ∀ out, ¬ w'.Prints c out :=
      fun out hout => hsilent out ((h.prints_iff hw hw').mp hout)
    obtain ⟨hexit, hstdout⟩ := run_of_silent hc hsilent hw.not_aborts
    obtain ⟨hexit', hstdout'⟩ := run_of_silent hc' hsilent' hw'.not_aborts
    exact ⟨hexit'.trans hexit.symm, hstdout'.trans hstdout.symm⟩

/-- A file of one query, by identifier. -/
def listing : Directory :=
  .ofList [("q.json", "\x7b\"resource\":\"Person\",\"sort\":[\x7b\"path\":" ++
    "[\x7b\"name\":\"Id\",\"type\":\"Identifier\"\x7d]\x7d]\x7d")]

/-- Noon of a day in 2024. -/
def someNoon : Time.Instant :=
  ⟨1704110400, 0⟩

def searchIn (env : List (String × String)) : World :=
  .inDirectory listing someNoon ["search", "--input", "q.json", "--index", "people"]
    (("RESQ_SUPPRESS_ID_SORT", "no") :: env)

def peopleSearch : Invocation :=
  ⟨.search, none, "q.json", some "people"⟩

def peopleRequest : SearchRequest :=
  ⟨"people", none, [⟨"id", .asc⟩], none, none⟩

def fileLog : List (String × String) :=
  [("RUST_LOG", "info"), ("LOG_OUTPUT", "file"), ("LOG_DIR", "a/b")]

theorem lookup_fileLog {name : String} (h : name ∉ logVariables) : fileLog.lookup name = none := by
  rw [List.lookup_eq_none_iff]
  intro entry hentry
  have hlog : ∀ entry ∈ fileLog, entry.1 ∈ logVariables := by decide
  have hne : name ≠ entry.1 := by
    intro heq
    rw [heq] at h
    exact h (hlog entry hentry)
  simpa using hne

theorem searchIn_standsApart {env : List (String × String)}
    (hopens : (startLogging (searchIn env) ((searchIn env).log .default)).toOption.isSome = true)
    (hne : ((listing.make ((searchIn env).log .default).directory).toOption.all fun made =>
      (made.locate "q.json").toOption !=
        (made.locate (logPath someNoon ((searchIn env).log .default).directory)).toOption) = true) :
    (searchIn env).LogStandsApart peopleSearch := by
  have hinput : ((searchIn []).inputText? peopleSearch listing.read).isSome = true := by
    decide +kernel
  obtain ⟨text, htext⟩ := Option.isSome_iff_exists.mp hinput
  refine World.inDirectory_standsApart rfl ?_ htext ?_
  · intro s flag settles
    cases settles.settings
    obtain ⟨log, hlog⟩ := Option.isSome_iff_exists.mp hopens
    exact ⟨log, startLogging_ok_iff.mp (toOption_eq_some_iff.mp hlog)⟩
  · intro s made hs hmade heq
    cases hs
    have hmade : listing.make ((searchIn env).log .default).directory = .ok made := hmade
    have heq : made.locate "q.json" =
        made.locate (logPath someNoon ((searchIn env).log .default).directory) := heq
    rw [hmade] at hne
    simp [Except.toOption, heq] at hne

/-- A log where no file can be made. -/
def closedLog : List (String × String) :=
  [("LOG_OUTPUT", "file"), ("LOG_DIR", "/proc")]

theorem searchIn_closed_aborts : (searchIn closedLog).Aborts peopleSearch := by
  have settles : (searchIn closedLog).Settles peopleSearch .default false :=
    ⟨rfl, rfl, by decide +kernel⟩
  have hlevel : Log.directives? ((searchIn closedLog).log .default).level = some [Log.warnings] := by
    decide +kernel
  have hopen : (searchIn closedLog).openLog "/proc" [] = .error (.file .notFound) := rfl
  exact .logFile settles hlevel (by decide +kernel) hopen

/-- A log in a directory of its own changes nothing of what is printed; where its file cannot be made
nothing is. -/
theorem peopleSearch_prints_alike :
    (run (searchIn [])).exit = 0 ∧
    (run (searchIn [])).stdout = "POST /people/_search\n" ++ peopleRequest.encode ++ "\n" ∧
    (run (searchIn fileLog)).exit = (run (searchIn [])).exit ∧
    (run (searchIn fileLog)).stdout = (run (searchIn [])).stdout ∧
    (run (searchIn closedLog)).exit = 101 ∧ (run (searchIn closedLog)).stdout = "" := by
  have hparse : parse (searchIn []).args = .ok peopleSearch :=
    toOption_eq_some_iff.mp (by decide +kernel)
  obtain ⟨hprints, -, -, halike⟩ := run_prints_compiled_request (searchIn []) peopleSearch hparse
  obtain ⟨-, haborts, -, -⟩ := run_prints_compiled_request (searchIn closedLog) peopleSearch hparse
  have hlayer : ((searchIn []).layer? peopleSearch listing.read).bind
      (peopleSearch.output? false) = some ("POST /people/_search\n" ++ peopleRequest.encode) := by
    decide +kernel
  obtain ⟨l, reads, compiles⟩ := Option.bind_eq_some_iff.mp hlayer
  have hquiet : (searchIn []).LogStandsApart peopleSearch :=
    searchIn_standsApart (by decide +kernel) (by decide +kernel)
  have hfile : (searchIn fileLog).LogStandsApart peopleSearch :=
    searchIn_standsApart (by decide +kernel) (by decide +kernel)
  have settles : (searchIn []).Settles peopleSearch .default false := ⟨rfl, rfl, by decide +kernel⟩
  obtain ⟨log, opens⟩ := hquiet.opens _ _ settles
  have hkept : (searchIn []).layer? peopleSearch log.files = some l := by
    rw [World.layer?, hquiet.keeps _ _ _ settles opens]
    exact reads
  obtain ⟨hexit, hstdout⟩ := hprints _ ⟨settles, opens, hkept, compiles⟩
  have hsame : (searchIn []).SameButLog (searchIn fileLog) peopleSearch := by
    refine ⟨rfl, ?_, by decide +kernel, rfl, rfl⟩
    intro name hname
    simp [searchIn, World.inDirectory, List.lookup_cons, lookup_fileLog hname]
  obtain ⟨hexit', hstdout'⟩ := halike _ hsame hquiet hfile
  exact ⟨hexit, hstdout, hexit', hstdout', haborts searchIn_closed_aborts⟩

/-- The way to the query leads through a directory that is not there. -/
def countBeside (env : List (String × String)) : World :=
  .inDirectory (.ofList [("q.json", "\x7b\"resource\":\"R\"\x7d")]) someNoon
    ["count", "--input", "a/../q.json"] env

/-- With a log directory below the missing one the query can be read, and without it it cannot. -/
theorem log_directory_opens_way :
    (countBeside []).SameButLog (countBeside fileLog) ⟨.count, none, "a/../q.json", none⟩ ∧
    parse (countBeside []).args = .ok ⟨.count, none, "a/../q.json", none⟩ ∧
    (environment (countBeside [])).isSome = true ∧
    (environment (countBeside fileLog)).isSome = true ∧
    (∃ log, (countBeside fileLog).LogOpens .default log) ∧
    (run (countBeside [])).exit = 1 ∧ (run (countBeside [])).stdout = "" ∧
    (run (countBeside fileLog)).exit = 0 ∧
    (run (countBeside fileLog)).stdout = "POST /R/_count\n\x7b\x7d\n" := by
  have hopens : (startLogging (countBeside fileLog)
      ((countBeside fileLog).log .default)).toOption.isSome = true := by
    decide +kernel
  obtain ⟨log, hlog⟩ := Option.isSome_iff_exists.mp hopens
  refine ⟨⟨rfl, ?_, by decide +kernel, rfl, rfl⟩, toOption_eq_some_iff.mp (by decide +kernel), rfl, rfl,
    ⟨log, startLogging_ok_iff.mp (toOption_eq_some_iff.mp hlog)⟩, by decide +kernel,
    by decide +kernel, by decide +kernel, by decide +kernel⟩
  intro name hname
  simp [countBeside, World.inDirectory, lookup_fileLog hname]

end Command

end ResourceQuery
