import Msp.Daemon.ThermalReader

/-!
# The command line of `watchdogd`

The beginning of `main` (`src/daemon/watchdogd_main.c`), up to the point where
it starts anything: the loop over `argv` by its index, the copies into the fixed
buffers of the configuration, and the check of the socket path.  What the
command line says, by the help text, is a list of settings; `asked` is the
configuration with the last of each.

`argv` holds its strings up to their terminating NULs.  A read of `argv` at
`argc` or beyond is `none`.
-/

set_option autoImplicit false

namespace Msp.Daemon.WatchdogdOptions

open Msp.ThermalTree Msp.Daemon.ThermalReader

def basePathMax : Nat := 256

def socketPathMax : Nat := 108

/-- What `snprintf(buffer, size, "%s", text)` leaves in the buffer. -/
def copied (size : Nat) (text : List Char) : List Char := text.take (size - 1)

def defaultConfig : Config where
  basePath := copied basePathMax "/sys/class/thermal".toList
  zoneTypeFilter := []
  aggregate := .max

structure Options where
  socketPath : List Char
  thermalCfg : Config
  deriving DecidableEq, Repr

/-- A variable that is set and empty counts as unset. -/
def defaultSocketPath (environment : Option (List Char)) : List Char :=
  match environment with
  | none => "/tmp/msp_watchdogd.sock".toList
  | some path => if path = [] then "/tmp/msp_watchdogd.sock".toList else path

structure Exit where
  status : Nat
  stderr : List Char
  deriving DecidableEq, Repr

def printUsage (prog : List Char) : List Char :=
  "Usage: ".toList ++ prog ++
    [" [OPTIONS]",
      "",
      "Reference watchdog daemon: watches real thermal telemetry and",
      "serves it to any client (see msp.thermal.WatchdogTelemetryReader",
      "on the Python side) over a Unix domain socket.",
      "",
      "Options:",
      "  --socket PATH        Unix domain socket to serve telemetry on.",
      "                       Default: $MSP_WATCHDOG_SOCKET, or",
      "                       /tmp/msp_watchdogd.sock if unset.",
      "  --thermal-base PATH  Base dir to read thermal zones from.",
      "                       Default: /sys/class/thermal. Override this",
      "                       to point at a simulated sysfs tree for",
      "                       testing (see tests/daemon and",
      "                       tests/python/test_thermal.py for real",
      "                       examples of building one).",
      "  --zone-type STRING   Only consider zones whose type contains",
      "                       this substring (case-insensitive).",
      "                       Default: no filter, all zones considered.",
      "  --aggregate max|mean How to combine multiple matching zones.",
      "                       Default: max.",
      "  -h, --help           Show this help and exit."].flatMap
      fun line => (line ++ "\n").toList

inductive Iteration where
  | continues (options : Options) (next : Nat)
  | returns (exit : Exit)
  deriving DecidableEq, Repr

/-- The body of the loop at `i`; `next` is `i` after its `++i` and the loop's `i++`. -/
def iteration (argv : List (List Char)) (options : Options) (i : Nat) : Option Iteration :=
  argv[i]?.bind fun arg =>
    if arg = "--socket".toList ∧ i + 1 < argv.length then
      argv[i + 1]?.map fun value => .continues { options with socketPath := value } (i + 2)
    else if arg = "--thermal-base".toList ∧ i + 1 < argv.length then
      argv[i + 1]?.map fun value =>
        .continues
          { options with
            thermalCfg := { options.thermalCfg with basePath := copied basePathMax value } }
          (i + 2)
    else if arg = "--zone-type".toList ∧ i + 1 < argv.length then
      argv[i + 1]?.map fun value =>
        .continues
          { options with
            thermalCfg := { options.thermalCfg with zoneTypeFilter := copied typeFilterMax value } }
          (i + 2)
    else if arg = "--aggregate".toList ∧ i + 1 < argv.length then
      argv[i + 1]?.map fun value =>
        if value = "max".toList then
          .continues
            { options with thermalCfg := { options.thermalCfg with aggregate := .max } } (i + 2)
        else if value = "mean".toList then
          .continues
            { options with thermalCfg := { options.thermalCfg with aggregate := .mean } } (i + 2)
        else
          .returns ⟨2, "--aggregate must be 'max' or 'mean', got '".toList ++ value ++ "'\n".toList⟩
    else if arg = "-h".toList ∨ arg = "--help".toList then
      argv[0]?.map fun prog => .returns ⟨0, printUsage prog⟩
    else
      argv[0]?.map fun prog =>
        .returns ⟨2, "Unrecognized argument: '".toList ++ arg ++ "'\n".toList ++ printUsage prog⟩

def optionLoop (argv : List (List Char)) : Nat → Options → Nat → Option (Except Exit Options)
  | 0, _, _ => none
  | fuel + 1, options, i =>
      if i < argv.length then
        (iteration argv options i).bind fun
          | .continues next j => optionLoop argv fuel next j
          | .returns exit => some (.error exit)
      else some (.ok options)

/-- Behind the loop: the length check, and what the server and its reader are
started with (`server_cfg.socket_path` and `thermal_cfg`). -/
def startWith (options : Options) : Except Exit Options :=
  if options.socketPath.length ≥ socketPathMax then
    .error ⟨2, "--socket path too long (max 107 bytes): '".toList ++ options.socketPath ++
      "'\n".toList⟩
  else .ok { options with socketPath := copied socketPathMax options.socketPath }

/-- `main` up to the start of the server: it has returned, or it proceeds. -/
def commandLine (environment : Option (List Char)) (argv : List (List Char)) :
    Option (Except Exit Options) :=
  (optionLoop argv (argv.length + 1) ⟨defaultSocketPath environment, defaultConfig⟩ 1).map
    fun parsed => parsed.bind startWith

/-! ## What a command line says -/

inductive Setting where
  | socket (path : List Char)
  | thermalBase (path : List Char)
  | zoneType (filter : List Char)
  | aggregate (choice : Aggregate)
  deriving DecidableEq, Repr

def Setting.words : Setting → List (List Char)
  | .socket path => ["--socket".toList, path]
  | .thermalBase path => ["--thermal-base".toList, path]
  | .zoneType filter => ["--zone-type".toList, filter]
  | .aggregate .max => ["--aggregate".toList, "max".toList]
  | .aggregate .mean => ["--aggregate".toList, "mean".toList]

def given (settings : List Setting) : List (List Char) := settings.flatMap Setting.words

def Setting.socketPath? : Setting → Option (List Char)
  | .socket path => some path
  | _ => none

def Setting.basePath? : Setting → Option (List Char)
  | .thermalBase path => some path
  | _ => none

def Setting.zoneTypeFilter? : Setting → Option (List Char)
  | .zoneType filter => some filter
  | _ => none

def Setting.aggregate? : Setting → Option Aggregate
  | .aggregate choice => some choice
  | _ => none

def last {Value : Type} (value? : Setting → Option Value) (default : Value)
    (settings : List Setting) : Value :=
  ((settings.filterMap value?).getLast?).getD default

def asked (environment : Option (List Char)) (settings : List Setting) : Options where
  socketPath := last Setting.socketPath? (defaultSocketPath environment) settings
  thermalCfg :=
    { basePath := last Setting.basePath? "/sys/class/thermal".toList settings
      zoneTypeFilter := last Setting.zoneTypeFilter? [] settings
      aggregate := last Setting.aggregate? .max settings }

def takesValue (word : List Char) : Bool :=
  decide (word ∈ ["--socket".toList, "--thermal-base".toList, "--zone-type".toList,
    "--aggregate".toList])

def asksHelp (word : List Char) : Bool := decide (word = "-h".toList ∨ word = "--help".toList)

/-- Words no setting begins with, and the status they call for. -/
inductive Stops : List (List Char) → Nat → Prop where
  | help (word : List Char) (rest : List (List Char)) (isHelp : asksHelp word = true) :
      Stops (word :: rest) 0
  | unrecognized (word : List Char) (rest : List (List Char)) (notHelp : asksHelp word = false)
      (noSetting : takesValue word = true → rest = []) : Stops (word :: rest) 2
  | wrongAggregate (value : List Char) (rest : List (List Char)) (notMax : value ≠ "max".toList)
      (notMean : value ≠ "mean".toList) : Stops ("--aggregate".toList :: value :: rest) 2

/-- A command line that asks for help or is in error. -/
inductive Rejects (environment : Option (List Char)) : List (List Char) → Nat → Prop where
  | stops (settings : List Setting) {unread : List (List Char)} {status : Nat}
      (stops : Stops unread status) : Rejects environment (given settings ++ unread) status
  | socketTooLong (settings : List Setting)
      (tooLong : socketPathMax ≤ (asked environment settings).socketPath.length) :
      Rejects environment (given settings) 2

def HonouredOrRejected (environment : Option (List Char)) (argv : List (List Char)) : Prop :=
  (∃ exit, commandLine environment argv = some (.error exit) ∧
    Rejects environment argv.tail exit.status) ∨
  ∃ settings, argv.tail = given settings ∧
    commandLine environment argv = some (.ok (asked environment settings))

def Setting.store (options : Options) : Setting → Options
  | .socket path => { options with socketPath := path }
  | .thermalBase path =>
      { options with thermalCfg := { options.thermalCfg with basePath := copied basePathMax path } }
  | .zoneType filter =>
      { options with
        thermalCfg := { options.thermalCfg with zoneTypeFilter := copied typeFilterMax filter } }
  | .aggregate choice =>
      { options with thermalCfg := { options.thermalCfg with aggregate := choice } }

section Words
variable {argv unread rest : List (List Char)} {word value : List Char} {i : Nat}

theorem getElem?_of_drop (here : argv.drop i = word :: rest) : argv[i]? = some word := by
  have first : (argv.drop i)[0]? = argv[i + 0]? := List.getElem?_drop
  rw [here] at first
  exact first.symm

theorem lt_length_of_drop (here : argv.drop i = word :: rest) : i < argv.length := by
  have lengths := congrArg List.length here
  rw [List.length_drop, List.length_cons] at lengths
  omega

theorem drop_succ_of_drop (here : argv.drop i = word :: rest) : argv.drop (i + 1) = rest := by
  rw [← List.drop_drop, here]
  rfl

theorem not_option {option : List Char} {more : Prop} (differs : word ≠ option) :
    ¬ (word = option ∧ more) := fun both => differs both.1

theorem iteration_aggregate (options : Options)
    (here : argv.drop i = "--aggregate".toList :: value :: rest) :
    iteration argv options i = some (
      if value = "max".toList then
        .continues ((Setting.aggregate .max).store options) (i + 2)
      else if value = "mean".toList then
        .continues ((Setting.aggregate .mean).store options) (i + 2)
      else
        .returns ⟨2, "--aggregate must be 'max' or 'mean', got '".toList ++ value ++
          "'\n".toList⟩) := by
  have behind := drop_succ_of_drop here
  have more := lt_length_of_drop behind
  rw [iteration, getElem?_of_drop here, Option.bind_some,
    if_neg (not_option (by decide)), if_neg (not_option (by decide)),
    if_neg (not_option (by decide)), if_pos ⟨rfl, more⟩, getElem?_of_drop behind]
  rfl

theorem iteration_setting {options : Options} (setting : Setting)
    (here : argv.drop i = setting.words ++ rest) :
    iteration argv options i = some (.continues (setting.store options) (i + 2)) := by
  have both : ∀ {word value : List Char}, argv.drop i = word :: value :: rest →
      argv[i]? = some word ∧ argv[i + 1]? = some value ∧ i + 1 < argv.length := by
    intro word value front
    have behind := drop_succ_of_drop front
    exact ⟨getElem?_of_drop front, getElem?_of_drop behind, lt_length_of_drop behind⟩
  cases setting with
  | socket path =>
      obtain ⟨option, given, more⟩ := both here
      rw [iteration, option, Option.bind_some, if_pos ⟨rfl, more⟩, given]
      rfl
  | thermalBase path =>
      obtain ⟨option, given, more⟩ := both here
      rw [iteration, option, Option.bind_some, if_neg (not_option (by decide)),
        if_pos ⟨rfl, more⟩, given]
      rfl
  | zoneType filter =>
      obtain ⟨option, given, more⟩ := both here
      rw [iteration, option, Option.bind_some, if_neg (not_option (by decide)),
        if_neg (not_option (by decide)), if_pos ⟨rfl, more⟩, given]
      rfl
  | aggregate choice =>
      cases choice with
      | max => rw [iteration_aggregate options here, if_pos rfl]
      | mean => rw [iteration_aggregate options here, if_neg (by decide), if_pos rfl]

theorem takesValue_iff : takesValue word = true ↔ word = "--socket".toList ∨
    word = "--thermal-base".toList ∨ word = "--zone-type".toList ∨
      word = "--aggregate".toList := by
  simp only [takesValue, List.mem_cons, List.not_mem_nil, or_false, decide_eq_true_eq]

theorem iteration_other (options : Options) (here : argv.drop i = word :: rest)
    (noSetting : takesValue word = true → rest = []) :
    ∃ prog, iteration argv options i = some (.returns (
      if asksHelp word then ⟨0, printUsage prog⟩
      else ⟨2, "Unrecognized argument: '".toList ++ word ++ "'\n".toList ++ printUsage prog⟩)) := by
  have inside := lt_length_of_drop here
  have noValue : ∀ {option : List Char}, takesValue option = true →
      ¬ (word = option ∧ i + 1 < argv.length) := by
    rintro option isOption ⟨rfl, more⟩
    have lengths := congrArg List.length here
    rw [noSetting isOption, List.length_drop, List.length_singleton] at lengths
    omega
  have program : argv[0]? = some argv[0] := List.getElem?_eq_getElem (by omega)
  refine ⟨argv[0], ?_⟩
  rw [iteration, getElem?_of_drop here, Option.bind_some, if_neg (noValue (by decide)),
    if_neg (noValue (by decide)), if_neg (noValue (by decide)), if_neg (noValue (by decide)),
    program]
  by_cases help : word = "-h".toList ∨ word = "--help".toList
  · have isHelp : asksHelp word = true := decide_eq_true help
    rw [if_pos help, if_pos isHelp]
    rfl
  · have notHelp : ¬ asksHelp word = true := by rwa [asksHelp, decide_eq_true_eq]
    rw [if_neg help, if_neg notHelp]
    rfl

theorem iteration_stops (options : Options) {status : Nat} (stops : Stops unread status)
    (here : argv.drop i = unread) :
    ∃ exit, iteration argv options i = some (.returns exit) ∧ exit.status = status := by
  cases stops with
  | help word rest isHelp =>
      have noSetting : takesValue word = true → rest = [] := by
        rcases of_decide_eq_true isHelp with rfl | rfl <;> exact nofun
      obtain ⟨prog, returned⟩ := iteration_other options here noSetting
      rw [if_pos isHelp] at returned
      exact ⟨_, returned, rfl⟩
  | unrecognized word rest notHelp noSetting =>
      obtain ⟨prog, returned⟩ := iteration_other options here noSetting
      rw [if_neg (by rw [notHelp]; exact nofun)] at returned
      exact ⟨_, returned, rfl⟩
  | wrongAggregate value rest notMax notMean =>
      have returned := iteration_aggregate options here
      rw [if_neg notMax, if_neg notMean] at returned
      exact ⟨_, returned, rfl⟩

end Words

/-! ## The loop -/

theorem read_cases : ∀ words : List (List Char),
    (∃ settings, words = given settings) ∨
      ∃ settings unread status, words = given settings ++ unread ∧ Stops unread status
  | [] => Or.inl ⟨[], rfl⟩
  | [word] => by
      refine Or.inr ⟨[], [word], if asksHelp word then 0 else 2, rfl, ?_⟩
      cases isHelp : asksHelp word with
      | true => exact .help word [] isHelp
      | false => exact .unrecognized word [] isHelp fun _ => rfl
  | word :: value :: rest => by
      have behind : ∀ setting : Setting, setting.words = [word, value] →
          (∃ settings, word :: value :: rest = given settings) ∨
            ∃ settings unread status,
              word :: value :: rest = given settings ++ unread ∧ Stops unread status := by
        intro setting words
        rcases read_cases rest with ⟨settings, all⟩ | ⟨settings, unread, status, front, stops⟩
        · refine Or.inl ⟨setting :: settings, ?_⟩
          rw [given, List.flatMap_cons, words, ← given, ← all]
          rfl
        · refine Or.inr ⟨setting :: settings, unread, status, ?_, stops⟩
          rw [given, List.flatMap_cons, words, ← given, front]
          rfl
      by_cases option : takesValue word = true
      · rcases takesValue_iff.mp option with rfl | rfl | rfl | rfl
        · exact behind (.socket value) rfl
        · exact behind (.thermalBase value) rfl
        · exact behind (.zoneType value) rfl
        · by_cases isMax : value = "max".toList
          · exact behind (.aggregate .max) (by rw [isMax]; rfl)
          by_cases isMean : value = "mean".toList
          · exact behind (.aggregate .mean) (by rw [isMean]; rfl)
          · exact Or.inr ⟨[], _, 2, rfl, .wrongAggregate value rest isMax isMean⟩
      · cases isHelp : asksHelp word with
        | true => exact Or.inr ⟨[], _, 0, rfl, .help word _ isHelp⟩
        | false => exact Or.inr ⟨[], _, 2, rfl, .unrecognized word _ isHelp (absurd · option)⟩

theorem length_words (setting : Setting) : setting.words.length = 2 := by
  cases setting with
  | aggregate choice => cases choice <;> rfl
  | _ => rfl

theorem length_given (settings : List Setting) : (given settings).length = 2 * settings.length := by
  induction settings with
  | nil => rfl
  | cons setting others ih =>
      rw [given, List.flatMap_cons, ← given, List.length_append, length_words, ih,
        List.length_cons]
      omega

section Loop
variable {argv unread : List (List Char)}

/-- The loop works through settings, whatever stands behind them. -/
theorem optionLoop_given (fuel : Nat) : ∀ (settings : List Setting) (options : Options) (i : Nat),
    argv.drop i = given settings ++ unread →
      optionLoop argv (settings.length + fuel) options i =
        optionLoop argv fuel (settings.foldl Setting.store options) (i + 2 * settings.length) := by
  intro settings
  induction settings with
  | nil =>
      intro options i _
      rw [List.length_nil, Nat.zero_add]
      rfl
  | cons setting others ih =>
      intro options i here
      rw [given, List.flatMap_cons, ← given, List.append_assoc] at here
      have inside : i < argv.length := by
        have lengths := congrArg List.length here
        rw [List.length_drop, List.length_append, length_words] at lengths
        omega
      have behind : argv.drop (i + 2) = given others ++ unread := by
        rw [← List.drop_drop, here, ← length_words setting, List.drop_left]
      have next := ih (setting.store options) (i + 2) behind
      have unfolded : (setting :: others).length + fuel = others.length + fuel + 1 := by
        rw [List.length_cons]
        omega
      rw [unfolded, optionLoop, if_pos inside, iteration_setting setting here, Option.bind_some]
      dsimp only
      rw [next, List.length_cons, List.foldl_cons]
      congr 1
      omega

theorem optionLoop_all {settings : List Setting} (all : argv.tail = given settings)
    (options : Options) :
    optionLoop argv (argv.length + 1) options 1 =
      some (.ok (settings.foldl Setting.store options)) := by
  have lengths := congrArg List.length all
  rw [List.length_tail, length_given] at lengths
  have here : argv.drop 1 = given settings ++ [] := by rw [List.drop_one, all, List.append_nil]
  obtain ⟨fuel, enough⟩ : ∃ fuel, argv.length + 1 = settings.length + (fuel + 1) :=
    ⟨argv.length - settings.length, by omega⟩
  rw [enough, optionLoop_given (fuel + 1) settings options 1 here, optionLoop, if_neg (by omega)]

theorem optionLoop_stops {settings : List Setting} {status : Nat}
    (front : argv.tail = given settings ++ unread) (stops : Stops unread status)
    (options : Options) :
    ∃ exit, optionLoop argv (argv.length + 1) options 1 = some (.error exit) ∧
      exit.status = status := by
  have lengths := congrArg List.length front
  have nonempty : 0 < unread.length := by cases stops <;> exact Nat.succ_pos _
  rw [List.length_tail, List.length_append, length_given] at lengths
  have here : argv.drop 1 = given settings ++ unread := by rw [List.drop_one, front]
  have behind : argv.drop (1 + 2 * settings.length) = unread := by
    rw [← List.drop_drop, here, ← length_given, List.drop_left]
  obtain ⟨fuel, enough⟩ : ∃ fuel, argv.length + 1 = settings.length + (fuel + 1) :=
    ⟨argv.length - settings.length, by omega⟩
  obtain ⟨exit, returned, isStatus⟩ :=
    iteration_stops (settings.foldl Setting.store options) stops behind
  refine ⟨exit, ?_, isStatus⟩
  rw [enough, optionLoop_given (fuel + 1) settings options 1 here, optionLoop,
    if_pos (by omega), returned]
  rfl

end Loop

def stored (options : Options) : Options where
  socketPath := options.socketPath
  thermalCfg :=
    { basePath := copied basePathMax options.thermalCfg.basePath
      zoneTypeFilter := copied typeFilterMax options.thermalCfg.zoneTypeFilter
      aggregate := options.thermalCfg.aggregate }

theorem last_snoc {Value : Type} (value? : Setting → Option Value) (default : Value)
    (settings : List Setting) (setting : Setting) :
    last value? default (settings ++ [setting]) =
      (value? setting).getD (last value? default settings) := by
  unfold last
  rw [List.filterMap_append, List.filterMap_cons, List.filterMap_nil]
  cases value? setting with
  | none => simp
  | some value => simp

/-- Later settings override earlier ones. -/
theorem foldl_store (environment : Option (List Char)) (settings : List Setting) :
    settings.foldl Setting.store ⟨defaultSocketPath environment, defaultConfig⟩ =
      stored (asked environment settings) := by
  induction settings using List.reverseRecOn with
  | nil => rfl
  | append_singleton settings setting ih =>
      rw [List.foldl_append, ih, List.foldl_cons, List.foldl_nil]
      unfold asked
      simp only [last_snoc]
      cases setting <;> rfl

theorem copied_eq_self_iff {size : Nat} (positive : 0 < size) (text : List Char) :
    copied size text = text ↔ text.length < size := by
  rw [copied, List.take_eq_self_iff]
  omega

theorem stored_eq_iff (options : Options) :
    stored options = options ↔ options.thermalCfg.basePath.length < basePathMax ∧
      options.thermalCfg.zoneTypeFilter.length < typeFilterMax := by
  rw [← copied_eq_self_iff (by decide), ← copied_eq_self_iff (by decide)]
  obtain ⟨socketPath, basePath, zoneTypeFilter, aggregate⟩ := options
  simp [stored]

section CommandLine
variable (environment : Option (List Char)) {argv : List (List Char)}

theorem commandLine_all {settings : List Setting} (all : argv.tail = given settings) :
    commandLine environment argv = some (startWith (stored (asked environment settings))) := by
  rw [commandLine, optionLoop_all all, foldl_store]
  rfl

theorem commandLine_stops {settings : List Setting} {unread : List (List Char)} {status : Nat}
    (front : argv.tail = given settings ++ unread) (stops : Stops unread status) :
    ∃ exit, commandLine environment argv = some (.error exit) ∧ exit.status = status := by
  obtain ⟨exit, returned, isStatus⟩ :=
    optionLoop_stops front stops ⟨defaultSocketPath environment, defaultConfig⟩
  refine ⟨exit, ?_, isStatus⟩
  rw [commandLine, returned]
  rfl

theorem startWith_fits (options : Options) (fits : options.socketPath.length < socketPathMax) :
    startWith options = .ok options := by
  have whole := (copied_eq_self_iff (by decide) options.socketPath).mpr fits
  rw [startWith, if_neg (not_le.mpr fits), whole]

theorem startWith_tooLong (options : Options)
    (tooLong : socketPathMax ≤ options.socketPath.length) :
    ∃ exit, startWith options = .error exit ∧ exit.status = 2 := by
  rw [startWith, if_pos tooLong]
  exact ⟨_, rfl, rfl⟩

end CommandLine

def Setting.ofWords : List (List Char) → Option Setting
  | [word, value] =>
      if word = "--socket".toList then some (.socket value)
      else if word = "--thermal-base".toList then some (.thermalBase value)
      else if word = "--zone-type".toList then some (.zoneType value)
      else some (.aggregate (if value = "max".toList then .max else .mean))
  | _ => none

theorem ofWords_words (setting : Setting) : Setting.ofWords setting.words = some setting := by
  cases setting with
  | aggregate choice => cases choice <;> rfl
  | _ => rfl

theorem words_injective {first second : Setting} (same : first.words = second.words) :
    first = second := by
  have read := congrArg Setting.ofWords same
  rw [ofWords_words, ofWords_words] at read
  exact Option.some.inj read

theorem given_injective : ∀ {first second : List Setting}, given first = given second →
    first = second := by
  intro first
  induction first with
  | nil =>
      intro second same
      have lengths := congrArg List.length same
      rw [length_given, length_given, List.length_nil] at lengths
      exact (List.length_eq_zero_iff.mp (by omega)).symm
  | cons setting others ih =>
      intro second same
      cases second with
      | nil =>
          have lengths := congrArg List.length same
          rw [length_given, length_given, List.length_cons, List.length_nil] at lengths
          omega
      | cons other rest =>
          rw [given, given, List.flatMap_cons, List.flatMap_cons] at same
          obtain ⟨words, behind⟩ := List.append_inj same
            ((length_words setting).trans (length_words other).symm)
          rw [words_injective words, ih behind]

theorem stored_eq_of_honoured {environment : Option (List Char)} {argv : List (List Char)}
    (honoured : HonouredOrRejected environment argv) {settings : List Setting}
    (all : argv.tail = given settings)
    (fits : (asked environment settings).socketPath.length < socketPathMax) :
    stored (asked environment settings) = asked environment settings := by
  have proceeds := commandLine_all environment all
  rw [startWith_fits (stored (asked environment settings)) fits] at proceeds
  rcases honoured with ⟨exit, returned, _⟩ | ⟨others, alsoAll, asIs⟩
  · cases proceeds.symm.trans returned
  · have same : settings = others := given_injective (all.symm.trans alsoAll)
    subst same
    exact Except.ok.inj (Option.some.inj (proceeds.symm.trans asIs))

/-- `main` honours or rejects the command line exactly when the last thermal base
path and the last zone-type filter of one that it accepts fit into their buffers. -/
theorem command_line_honoured_iff (environment : Option (List Char)) (argv : List (List Char)) :
    HonouredOrRejected environment argv ↔
      ∀ settings, argv.tail = given settings →
        (asked environment settings).socketPath.length < socketPathMax →
          (asked environment settings).thermalCfg.basePath.length < basePathMax ∧
            (asked environment settings).thermalCfg.zoneTypeFilter.length < typeFilterMax := by
  constructor
  · intro honoured settings all fits
    exact (stored_eq_iff _).mp (stored_eq_of_honoured honoured all fits)
  · intro fit
    rcases read_cases argv.tail with ⟨settings, all⟩ | ⟨settings, unread, status, front, stops⟩
    · have reached := commandLine_all environment all
      by_cases fits : (asked environment settings).socketPath.length < socketPathMax
      · have whole := (stored_eq_iff _).mpr (fit settings all fits)
        rw [whole, startWith_fits _ fits] at reached
        exact Or.inr ⟨settings, all, reached⟩
      · obtain ⟨exit, returned, isStatus⟩ :=
          startWith_tooLong (stored (asked environment settings)) (not_lt.mp fits)
        refine Or.inl ⟨exit, reached.trans (congrArg some returned), ?_⟩
        rw [isStatus, all]
        exact .socketTooLong settings (not_lt.mp fits)
    · obtain ⟨exit, returned, isStatus⟩ := commandLine_stops environment front stops
      refine Or.inl ⟨exit, returned, ?_⟩
      rw [isStatus, front]
      exact .stops settings stops

/-- A filter of 70 characters loses seven of them. -/
theorem long_filter_shortened :
    ¬ HonouredOrRejected none
      ["watchdogd".toList, "--zone-type".toList, List.replicate 70 'x'] := by
  intro honoured
  have all : ["watchdogd".toList, "--zone-type".toList, List.replicate 70 'x'].tail =
      given [.zoneType (List.replicate 70 'x')] := rfl
  have whole := stored_eq_of_honoured honoured all (by decide)
  exact absurd ((stored_eq_iff _).mp whole).2 (by decide)

end Msp.Daemon.WatchdogdOptions
