import Tailserver.Client.Loop
import Tailserver.CommandLine.Number
import Tailserver.Library.OptionFold
import Tailserver.Server.Basic

/-! The command lines of both programs: what `main` makes of the options that
`getopt_long` returns and of the operands behind them. -/

set_option autoImplicit false

namespace Tailserver.CommandLine

open CMemory

/-! ## The source -/

/-- What is printed when `main` ends early. -/
inductive Message where
  | help
  | version
  /-- The hint of `usage` after an option that does not exist. -/
  | tryHelp
  /-- `error`, with the argument in front if there is one. -/
  | error (optarg : Option CString) (text : String)
  deriving DecidableEq

inductive Stop where
  | exits (success : Bool) (message : Message)
  | fault (fault : Fault)
  deriving DecidableEq

/-- The call of `xstrtoumax` in both programs. -/
def readUnits (lines : Bool) (nUnits : UInt64) (optarg : CString) : Except Stop UInt64 :=
  match xstrtoumax optarg.bytes (some multipliers) with
  | .error fault => .error (.fault fault)
  | .ok (sErr, val) =>
      if sErr ≠ longintOk then
        .error (.exits false (.error (some optarg)
          (if lines then "invalid number of lines" else "invalid number of bytes")))
      else .ok (val.getD nUnits)

/-! ### The server -/

/-- What `getopt_long` returns to the server. -/
inductive ServerOption where
  | bytes (optarg : CString)
  | lines (optarg : CString)
  | wait
  | ditchSlowTailers
  | ignoreInterrupts
  | help
  | version
  | unknown
  deriving DecidableEq

structure ServerSettings where
  countLines : Bool := true
  nUnits : UInt64 := 1000
  waitForClient : Bool := false
  ignoreInterrupts : Bool := false
  tailerBlockForever : Bool := true

def serverOption (settings : ServerSettings) : ServerOption → Except Stop ServerSettings
  | .bytes optarg => do
      let nUnits ← readUnits false settings.nUnits optarg
      return { settings with countLines := false, nUnits }
  | .lines optarg => do
      let nUnits ← readUnits true settings.nUnits optarg
      return { settings with countLines := true, nUnits }
  | .wait => return { settings with waitForClient := true }
  | .ditchSlowTailers => return { settings with tailerBlockForever := false }
  | .ignoreInterrupts => return { settings with ignoreInterrupts := true }
  | .help => .error (.exits true .help)
  | .version => .error (.exits true .version)
  | .unknown => .error (.exits false .tryHelp)

/-- The settings `main` launches the server with, and the path of the socket file. -/
structure ServerLaunch where
  settings : ServerSettings
  filePath : Option CString

def ServerLaunch.options (launch : ServerLaunch) : Server.Options where
  buffer := ⟨launch.settings.countLines, launch.settings.nUnits⟩
  waitForClient := launch.settings.waitForClient
  blockForever := launch.settings.tailerBlockForever
  filePath := launch.filePath.isSome

def multiplePaths : Stop := .exits false (.error none "Multiple file paths given!")

def serverOperands (operands : List CString) (settings : ServerSettings) :
    Except Stop ServerLaunch :=
  if operands.length > 1 then .error multiplePaths
  else .ok { settings, filePath := operands.head? }

/-- `main` of the server, up to the launch. -/
def serverMain (options : List ServerOption) (operands : List CString) :
    Except Stop ServerLaunch :=
  OptionFold.process serverOption {} options >>= serverOperands operands

/-! ### The client -/

section Client

-- `xstrtod` reads a number of seconds, which is compared with zero.
variable {Seconds : Type} (xstrtod : CString → Option Seconds) (nonneg : Seconds → Bool)

inductive ClientOption where
  | bytes (optarg : CString)
  | lines (optarg : CString)
  /-- Short or long. -/
  | follow
  | followName
  | wait
  | sleepInterval (optarg : CString)
  | help
  | version
  | unknown
  deriving DecidableEq

structure ClientSettings (Seconds : Type) where
  countLines : Bool := true
  nUnits : UInt64 := 10
  follow : Bool := false
  waitFileAtStartup : Bool := false
  reopenFile : Bool := false
  sleepSeconds : Seconds

def clientOption (settings : ClientSettings Seconds) :
    ClientOption → Except Stop (ClientSettings Seconds)
  | .bytes optarg => do
      let nUnits ← readUnits false settings.nUnits optarg
      return { settings with countLines := false, nUnits }
  | .lines optarg => do
      let nUnits ← readUnits true settings.nUnits optarg
      return { settings with countLines := true, nUnits }
  | .follow => return { settings with follow := true }
  | .followName => return { settings with follow := true, reopenFile := true }
  | .wait => return { settings with waitFileAtStartup := true }
  | .sleepInterval optarg =>
      match xstrtod optarg with
      | none => .error (.exits false (.error (some optarg) "invalid number of seconds"))
      | some sleepSeconds =>
          if nonneg sleepSeconds then return { settings with sleepSeconds }
          else .error (.exits false (.error (some optarg) "invalid number of seconds"))
  | .help => .error (.exits true .help)
  | .version => .error (.exits true .version)
  | .unknown => .error (.exits false .tryHelp)

structure ClientLaunch (Seconds : Type) where
  settings : ClientSettings Seconds
  filePath : CString

def ClientLaunch.options (launch : ClientLaunch Seconds) : Client.Options where
  buffer := ⟨launch.settings.countLines, launch.settings.nUnits⟩
  follow := launch.settings.follow
  reopenFile := launch.settings.reopenFile

def noPath : Stop :=
  .exits false (.error none "File path not given. Call with --help for options.")

def clientOperands (operands : List CString) (settings : ClientSettings Seconds) :
    Except Stop (ClientLaunch Seconds) :=
  if operands.length > 1 then .error multiplePaths
  else
    match operands.head? with
    | some filePath => .ok { settings, filePath }
    | none => .error noPath

/-- `main` of the client, up to the launch. `oneSecond` is the default of the interval. -/
def clientMain (oneSecond : Seconds) (options : List ClientOption) (operands : List CString) :
    Except Stop (ClientLaunch Seconds) :=
  OptionFold.process (clientOption xstrtod nonneg) { sleepSeconds := oneSecond } options >>=
    clientOperands operands

end Client

/-! ## Numbers of units -/

/-- The number is written as the grammar says, and it fits. -/
def Units (optarg : CString) (nUnits : UInt64) : Prop := Denotes optarg.bytes nUnits.toNat

def invalidUnits (lines : Bool) (optarg : CString) : Stop :=
  .exits false (.error (some optarg)
    (if lines then "invalid number of lines" else "invalid number of bytes"))

theorem readUnits_of_units {optarg : CString} {nUnits : UInt64} (units : Units optarg nUnits)
    (lines : Bool) (old : UInt64) : readUnits lines old optarg = .ok nUnits := by
  have converted := xstrtoumax_of_denotes units
  rw [rangeError_of_lt nUnits.toNat_lt,
    UInt64.toNat_inj.mp (Word.toNat_saturated_of_lt nUnits.toNat_lt)] at converted
  simp [readUnits, converted]

theorem readUnits_of_not {optarg : CString} (none : ∀ nUnits, ¬ Units optarg nUnits)
    (lines : Bool) (old : UInt64) :
    readUnits lines old optarg = .error (invalidUnits lines optarg) := by
  obtain ⟨err, val, ran, known⟩ := denotes_of_xstrtoumax optarg
  have failed : err ≠ longintOk := by
    rintro rfl
    obtain invalid | invalid | ⟨number, denotes⟩ := known
    · cases invalid
    · cases invalid
    have converted := xstrtoumax_of_denotes denotes
    rw [ran, Except.ok.injEq, Prod.mk.injEq] at converted
    rcases Nat.lt_or_ge number (2 ^ 64) with small | large
    · refine none (Word.saturated number) ?_
      rw [Units, Word.toNat_saturated_of_lt small]
      exact denotes
    · rw [rangeError_of_le large] at converted
      exact absurd converted.1 (by decide)
  simp [readUnits, ran, failed, invalidUnits]

/-- Nothing else happens, and what the setting was before does not matter. -/
theorem readUnits_cases (optarg : CString) :
    (∃ nUnits, Units optarg nUnits ∧
        ∀ lines old, readUnits lines old optarg = .ok nUnits) ∨
      (∀ nUnits, ¬ Units optarg nUnits) ∧
        ∀ lines old, readUnits lines old optarg = .error (invalidUnits lines optarg) := by
  by_cases some : ∃ nUnits, Units optarg nUnits
  · obtain ⟨nUnits, units⟩ := some
    exact .inl ⟨nUnits, units, readUnits_of_units units⟩
  · have none := not_exists.mp some
    exact .inr ⟨none, readUnits_of_not none⟩

/-- The kind and the number of units that an option gives. -/
def UnitsOf (source : Bool × CString) (units : Bool × UInt64) : Prop :=
  units.1 = source.1 ∧ Units source.2 units.2

theorem Units.unique {optarg : CString} {nUnits nUnits' : UInt64} (units : Units optarg nUnits)
    (units' : Units optarg nUnits') : nUnits = nUnits' := by
  have reads := readUnits_of_units units true 0
  rw [readUnits_of_units units' true 0] at reads
  exact (Except.ok.inj reads).symm

theorem UnitsOf.unique (initial : Bool × UInt64) (last : Option (Bool × CString))
    {units units' : Bool × UInt64} (given : OptionFold.GivenBy UnitsOf initial last units)
    (given' : OptionFold.GivenBy UnitsOf initial last units') : units = units' := by
  cases last with
  | none => exact Eq.trans given (Eq.symm given')
  | some source => exact Prod.ext (given.1.trans given'.1.symm) (given.2.unique given'.2)

/-! ## The server -/

/-- What an option of the server does to the settings. -/
inductive ServerOption.Updates : ServerOption → (ServerSettings → ServerSettings) → Prop where
  | bytes {optarg : CString} {nUnits : UInt64} : Units optarg nUnits →
      Updates (.bytes optarg) fun settings => { settings with countLines := false, nUnits }
  | lines {optarg : CString} {nUnits : UInt64} : Units optarg nUnits →
      Updates (.lines optarg) fun settings => { settings with countLines := true, nUnits }
  | wait : Updates .wait fun settings => { settings with waitForClient := true }
  | ditchSlowTailers :
      Updates .ditchSlowTailers fun settings => { settings with tailerBlockForever := false }
  | ignoreInterrupts :
      Updates .ignoreInterrupts fun settings => { settings with ignoreInterrupts := true }

/-- How it ends the program. -/
inductive ServerOption.Stops : ServerOption → Stop → Prop where
  | bytes {optarg : CString} : (∀ nUnits, ¬ Units optarg nUnits) →
      Stops (.bytes optarg) (invalidUnits false optarg)
  | lines {optarg : CString} : (∀ nUnits, ¬ Units optarg nUnits) →
      Stops (.lines optarg) (invalidUnits true optarg)
  | help : Stops .help (.exits true .help)
  | version : Stops .version (.exits true .version)
  | unknown : Stops .unknown (.exits false .tryHelp)

/-- The argument of an option that sets the number of units, and whether these are lines. -/
def ServerOption.units : ServerOption → Option (Bool × CString)
  | .bytes optarg => some (false, optarg)
  | .lines optarg => some (true, optarg)
  | _ => none

/-- The number of units is that of the last option for it, bytes or lines, and a flag is set
when its option is there. -/
structure ServerOption.Give (options : List ServerOption) (settings : ServerSettings) :
    Prop where
  units : OptionFold.GivenBy UnitsOf (true, 1000)
    (options.filterMap ServerOption.units).getLast? (settings.countLines, settings.nUnits)
  waitForClient : settings.waitForClient = true ↔ .wait ∈ options
  ignoreInterrupts : settings.ignoreInterrupts = true ↔ .ignoreInterrupts ∈ options
  tailerBlockForever : settings.tailerBlockForever = false ↔ .ditchSlowTailers ∈ options

theorem serverOption_independent :
    OptionFold.Independent serverOption ServerOption.Updates ServerOption.Stops := by
  intro option
  cases option with
  | bytes optarg =>
      rcases readUnits_cases optarg with ⟨nUnits, units, reads⟩ | ⟨none, reads⟩
      · refine .inl ⟨_, .bytes units, ?_, fun settings => by rw [serverOption, reads]; rfl⟩
        intro stop stops
        cases stops with
        | bytes absent => exact absent nUnits units
      · refine .inr ⟨_, .bytes none, ?_, fun settings => by rw [serverOption, reads]; rfl⟩
        intro stop stops
        cases stops
        rfl
  | lines optarg =>
      rcases readUnits_cases optarg with ⟨nUnits, units, reads⟩ | ⟨none, reads⟩
      · refine .inl ⟨_, .lines units, ?_, fun settings => by rw [serverOption, reads]; rfl⟩
        intro stop stops
        cases stops with
        | lines absent => exact absent nUnits units
      · refine .inr ⟨_, .lines none, ?_, fun settings => by rw [serverOption, reads]; rfl⟩
        intro stop stops
        cases stops
        rfl
  | wait => exact .inl ⟨_, .wait, nofun, fun _ => rfl⟩
  | ditchSlowTailers => exact .inl ⟨_, .ditchSlowTailers, nofun, fun _ => rfl⟩
  | ignoreInterrupts => exact .inl ⟨_, .ignoreInterrupts, nofun, fun _ => rfl⟩
  | help => exact .inr ⟨_, .help, fun _ stops => by cases stops; rfl, fun _ => rfl⟩
  | version => exact .inr ⟨_, .version, fun _ stops => by cases stops; rfl, fun _ => rfl⟩
  | unknown => exact .inr ⟨_, .unknown, fun _ stops => by cases stops; rfl, fun _ => rfl⟩

theorem ServerOption.give_of_updated {options : List ServerOption} {settings : ServerSettings}
    (updated : OptionFold.Updated ServerOption.Updates options {} settings) :
    Give options settings := by
  refine ⟨?_, ?_, ?_, ?_⟩
  · refine updated.last (fun settings => (settings.countLines, settings.nUnits)) units UnitsOf ?_
    intro option update does settings
    cases does with
    | bytes denotes => exact ⟨rfl, denotes⟩
    | lines denotes => exact ⟨rfl, denotes⟩
    | wait => rfl
    | ditchSlowTailers => rfl
    | ignoreInterrupts => rfl
  · rw [updated.flag_iff (·.waitForClient = true) (· = .wait) ?_ (by decide)]
    · simp
    · intro option update does settings
      cases does <;> simp
  · rw [updated.flag_iff (·.ignoreInterrupts = true) (· = .ignoreInterrupts) ?_ (by decide)]
    · simp
    · intro option update does settings
      cases does <;> simp
  · rw [updated.flag_iff (·.tailerBlockForever = false) (· = .ditchSlowTailers) ?_ (by decide)]
    · simp
    · intro option update does settings
      cases does <;> simp

/-- The options determine the settings. -/
theorem ServerOption.Give.unique {options : List ServerOption}
    {settings settings' : ServerSettings} (give : Give options settings)
    (give' : Give options settings') : settings = settings' := by
  have units := UnitsOf.unique _ _ give.units give'.units
  have waitForClient := give.waitForClient.trans give'.waitForClient.symm
  have ignoreInterrupts := give.ignoreInterrupts.trans give'.ignoreInterrupts.symm
  have tailerBlockForever := give.tailerBlockForever.trans give'.tailerBlockForever.symm
  cases settings
  cases settings'
  simp_all

/-- How `main` ends: an option ends it, there are two operands, or it launches the server
with the settings that its options give. -/
inductive ServerOutcome (options : List ServerOption) (operands : List CString) :
    Except Stop ServerLaunch → Prop where
  | stops {stop : Stop} : OptionFold.FirstStop ServerOption.Stops options stop →
      ServerOutcome options operands (.error stop)
  | multiplePaths : (∀ option ∈ options, ∀ stop, ¬ option.Stops stop) → operands.length > 1 →
      ServerOutcome options operands (.error multiplePaths)
  | launches {launch : ServerLaunch} : (∀ option ∈ options, ∀ stop, ¬ option.Stops stop) →
      ¬ operands.length > 1 → ServerOption.Give options launch.settings →
      launch.filePath = operands.head? → ServerOutcome options operands (.ok launch)

theorem serverMain_outcome (options : List ServerOption) (operands : List CString) :
    ServerOutcome options operands (serverMain options operands) := by
  rw [serverMain]
  rcases OptionFold.none_or_first ServerOption.Stops options with none | ⟨stop, first⟩
  · obtain ⟨settings, processed, updated⟩ :=
      OptionFold.process_of_forall serverOption_independent none {}
    rw [processed, except_ok_bind, serverOperands]
    split
    case isTrue many => exact .multiplePaths none many
    case isFalse few => exact .launches none few (ServerOption.give_of_updated updated) rfl
  · rw [first.process serverOption_independent]
    exact .stops first

/-- The outcome says all that `main` does: it is the only one. -/
theorem serverMain_iff (options : List ServerOption) (operands : List CString)
    (result : Except Stop ServerLaunch) :
    serverMain options operands = result ↔ ServerOutcome options operands result := by
  constructor
  · rintro rfl
    exact serverMain_outcome options operands
  · intro outcome
    rw [serverMain]
    cases outcome with
    | stops first =>
        rw [first.process serverOption_independent]
        rfl
    | multiplePaths none many =>
        obtain ⟨settings, processed, _⟩ :=
          OptionFold.process_of_forall serverOption_independent none {}
        rw [processed, except_ok_bind, serverOperands, if_pos many]
    | @launches launch none few give filePath =>
        obtain ⟨settings, processed, updated⟩ :=
          OptionFold.process_of_forall serverOption_independent none {}
        obtain rfl := give.unique (ServerOption.give_of_updated updated)
        rw [processed, except_ok_bind, serverOperands, if_neg few, ← filePath]

/-! ## The client -/

section Client

variable {Seconds : Type} (xstrtod : CString → Option Seconds) (nonneg : Seconds → Bool)

def invalidSeconds (optarg : CString) : Stop :=
  .exits false (.error (some optarg) "invalid number of seconds")

/-- The argument is a number of seconds and not negative. -/
def Interval (optarg : CString) (seconds : Seconds) : Prop :=
  xstrtod optarg = some seconds ∧ nonneg seconds = true

/-- What an option of the client does to the settings. -/
inductive ClientOption.Updates :
    ClientOption → (ClientSettings Seconds → ClientSettings Seconds) → Prop where
  | bytes {optarg : CString} {nUnits : UInt64} : Units optarg nUnits →
      Updates (.bytes optarg) fun settings => { settings with countLines := false, nUnits }
  | lines {optarg : CString} {nUnits : UInt64} : Units optarg nUnits →
      Updates (.lines optarg) fun settings => { settings with countLines := true, nUnits }
  | follow : Updates .follow fun settings => { settings with follow := true }
  | followName :
      Updates .followName fun settings => { settings with follow := true, reopenFile := true }
  | wait : Updates .wait fun settings => { settings with waitFileAtStartup := true }
  | sleepInterval {optarg : CString} {sleepSeconds : Seconds} :
      Interval xstrtod nonneg optarg sleepSeconds →
      Updates (.sleepInterval optarg) fun settings => { settings with sleepSeconds }

inductive ClientOption.Stops : ClientOption → Stop → Prop where
  | bytes {optarg : CString} : (∀ nUnits, ¬ Units optarg nUnits) →
      Stops (.bytes optarg) (invalidUnits false optarg)
  | lines {optarg : CString} : (∀ nUnits, ¬ Units optarg nUnits) →
      Stops (.lines optarg) (invalidUnits true optarg)
  | sleepInterval {optarg : CString} :
      (∀ seconds, ¬ Interval xstrtod nonneg optarg seconds) →
      Stops (.sleepInterval optarg) (invalidSeconds optarg)
  | help : Stops .help (.exits true .help)
  | version : Stops .version (.exits true .version)
  | unknown : Stops .unknown (.exits false .tryHelp)

def ClientOption.units : ClientOption → Option (Bool × CString)
  | .bytes optarg => some (false, optarg)
  | .lines optarg => some (true, optarg)
  | _ => none

def ClientOption.interval : ClientOption → Option CString
  | .sleepInterval optarg => some optarg
  | _ => none

structure ClientOption.Give (oneSecond : Seconds) (options : List ClientOption)
    (settings : ClientSettings Seconds) : Prop where
  units : OptionFold.GivenBy UnitsOf (true, 10)
    (options.filterMap ClientOption.units).getLast? (settings.countLines, settings.nUnits)
  follow : settings.follow = true ↔ ∃ option ∈ options, option = .follow ∨ option = .followName
  reopenFile : settings.reopenFile = true ↔ .followName ∈ options
  waitFileAtStartup : settings.waitFileAtStartup = true ↔ .wait ∈ options
  sleepSeconds : OptionFold.GivenBy (Interval xstrtod nonneg) oneSecond
    (options.filterMap ClientOption.interval).getLast? settings.sleepSeconds

theorem clientOption_independent :
    OptionFold.Independent (clientOption xstrtod nonneg)
      (ClientOption.Updates xstrtod nonneg) (ClientOption.Stops xstrtod nonneg) := by
  intro option
  cases option with
  | bytes optarg =>
      rcases readUnits_cases optarg with ⟨nUnits, units, reads⟩ | ⟨none, reads⟩
      · refine .inl ⟨_, .bytes units, ?_, fun settings => by rw [clientOption, reads]; rfl⟩
        intro stop stops
        cases stops with
        | bytes absent => exact absent nUnits units
      · refine .inr ⟨_, .bytes none, ?_, fun settings => by rw [clientOption, reads]; rfl⟩
        intro stop stops
        cases stops
        rfl
  | lines optarg =>
      rcases readUnits_cases optarg with ⟨nUnits, units, reads⟩ | ⟨none, reads⟩
      · refine .inl ⟨_, .lines units, ?_, fun settings => by rw [clientOption, reads]; rfl⟩
        intro stop stops
        cases stops with
        | lines absent => exact absent nUnits units
      · refine .inr ⟨_, .lines none, ?_, fun settings => by rw [clientOption, reads]; rfl⟩
        intro stop stops
        cases stops
        rfl
  | follow => exact .inl ⟨_, .follow, nofun, fun _ => rfl⟩
  | followName => exact .inl ⟨_, .followName, nofun, fun _ => rfl⟩
  | wait => exact .inl ⟨_, .wait, nofun, fun _ => rfl⟩
  | sleepInterval optarg =>
      by_cases given : ∃ seconds, Interval xstrtod nonneg optarg seconds
      · obtain ⟨seconds, interval⟩ := given
        refine .inl ⟨_, .sleepInterval interval, ?_, ?_⟩
        · intro stop stops
          cases stops with
          | sleepInterval absent => exact absent seconds interval
        · intro settings
          simp [clientOption, interval.1, interval.2, except_pure]
      · have absent := not_exists.mp given
        refine .inr ⟨_, .sleepInterval absent, ?_, ?_⟩
        · intro stop stops
          cases stops
          rfl
        · intro settings
          cases parsed : xstrtod optarg with
          | none => simp [clientOption, parsed, invalidSeconds]
          | some seconds =>
              have negative : nonneg seconds = false :=
                Bool.eq_false_iff.mpr fun nonneg => absent seconds ⟨parsed, nonneg⟩
              simp [clientOption, parsed, negative, invalidSeconds]
  | help => exact .inr ⟨_, .help, fun _ stops => by cases stops; rfl, fun _ => rfl⟩
  | version => exact .inr ⟨_, .version, fun _ stops => by cases stops; rfl, fun _ => rfl⟩
  | unknown => exact .inr ⟨_, .unknown, fun _ stops => by cases stops; rfl, fun _ => rfl⟩

variable {xstrtod nonneg} {oneSecond : Seconds}

theorem ClientOption.give_of_updated {options : List ClientOption}
    {settings : ClientSettings Seconds}
    (updated : OptionFold.Updated (ClientOption.Updates xstrtod nonneg) options
      { sleepSeconds := oneSecond } settings) :
    Give xstrtod nonneg oneSecond options settings := by
  refine ⟨?_, ?_, ?_, ?_, ?_⟩
  · refine updated.last (fun settings => (settings.countLines, settings.nUnits)) units UnitsOf ?_
    intro option update does settings
    cases does with
    | bytes denotes => exact ⟨rfl, denotes⟩
    | lines denotes => exact ⟨rfl, denotes⟩
    | follow => rfl
    | followName => rfl
    | wait => rfl
    | sleepInterval => rfl
  · refine updated.flag_iff (·.follow = true)
      (fun option => option = .follow ∨ option = .followName) ?_ nofun
    intro option update does settings
    cases does <;> simp
  · rw [updated.flag_iff (·.reopenFile = true) (· = .followName) ?_ nofun]
    · simp
    · intro option update does settings
      cases does <;> simp
  · rw [updated.flag_iff (·.waitFileAtStartup = true) (· = .wait) ?_ nofun]
    · simp
    · intro option update does settings
      cases does <;> simp
  · refine updated.last (·.sleepSeconds) interval (Interval xstrtod nonneg) ?_
    intro option update does settings
    cases does with
    | bytes denotes => rfl
    | lines denotes => rfl
    | follow => rfl
    | followName => rfl
    | wait => rfl
    | sleepInterval interval => exact interval

theorem ClientOption.Give.unique {options : List ClientOption}
    {settings settings' : ClientSettings Seconds}
    (give : Give xstrtod nonneg oneSecond options settings)
    (give' : Give xstrtod nonneg oneSecond options settings') : settings = settings' := by
  have units := UnitsOf.unique _ _ give.units give'.units
  have follow := give.follow.trans give'.follow.symm
  have reopenFile := give.reopenFile.trans give'.reopenFile.symm
  have waits := give.waitFileAtStartup.trans give'.waitFileAtStartup.symm
  have sleeps : settings.sleepSeconds = settings'.sleepSeconds := by
    have seconds := give.sleepSeconds
    have seconds' := give'.sleepSeconds
    cases last : (options.filterMap ClientOption.interval).getLast? with
    | none =>
        rw [last] at seconds seconds'
        exact Eq.trans seconds (Eq.symm seconds')
    | some optarg =>
        rw [last] at seconds seconds'
        exact Option.some.inj (seconds.1.symm.trans seconds'.1)
  cases settings
  cases settings'
  simp_all

variable (xstrtod nonneg oneSecond)

inductive ClientOutcome (options : List ClientOption) (operands : List CString) :
    Except Stop (ClientLaunch Seconds) → Prop where
  | stops {stop : Stop} :
      OptionFold.FirstStop (ClientOption.Stops xstrtod nonneg) options stop →
      ClientOutcome options operands (.error stop)
  | multiplePaths :
      (∀ option ∈ options, ∀ stop, ¬ option.Stops xstrtod nonneg stop) →
      operands.length > 1 → ClientOutcome options operands (.error multiplePaths)
  | noPath : (∀ option ∈ options, ∀ stop, ¬ option.Stops xstrtod nonneg stop) →
      operands = [] → ClientOutcome options operands (.error noPath)
  | launches {launch : ClientLaunch Seconds} :
      (∀ option ∈ options, ∀ stop, ¬ option.Stops xstrtod nonneg stop) →
      operands = [launch.filePath] →
      ClientOption.Give xstrtod nonneg oneSecond options launch.settings →
      ClientOutcome options operands (.ok launch)

/-- The client, which has to be given a path. -/
theorem clientMain_iff (options : List ClientOption) (operands : List CString)
    (result : Except Stop (ClientLaunch Seconds)) :
    clientMain xstrtod nonneg oneSecond options operands = result ↔
      ClientOutcome xstrtod nonneg oneSecond options operands result := by
  have independent := clientOption_independent xstrtod nonneg
  constructor
  · rintro rfl
    rw [clientMain]
    rcases OptionFold.none_or_first (ClientOption.Stops xstrtod nonneg) options with
      none | ⟨stop, first⟩
    · obtain ⟨settings, processed, updated⟩ :=
        OptionFold.process_of_forall independent none { sleepSeconds := oneSecond }
      rw [processed, except_ok_bind]
      match operands with
      | [] => exact .noPath none rfl
      | [filePath] => exact .launches none rfl (ClientOption.give_of_updated updated)
      | _ :: _ :: operands => exact .multiplePaths none (by simp)
    · rw [first.process independent]
      exact .stops first
  · intro outcome
    rw [clientMain]
    cases outcome with
    | stops first =>
        rw [first.process independent]
        rfl
    | multiplePaths none many =>
        obtain ⟨settings, processed, _⟩ :=
          OptionFold.process_of_forall independent none { sleepSeconds := oneSecond }
        rw [processed, except_ok_bind, clientOperands, if_pos many]
    | noPath none empty =>
        obtain ⟨settings, processed, _⟩ :=
          OptionFold.process_of_forall independent none { sleepSeconds := oneSecond }
        rw [processed, except_ok_bind, empty]
        rfl
    | launches none path give =>
        obtain ⟨settings, processed, updated⟩ :=
          OptionFold.process_of_forall independent none { sleepSeconds := oneSecond }
        obtain rfl := give.unique (ClientOption.give_of_updated updated)
        rw [processed, except_ok_bind, path]
        rfl

end Client

end Tailserver.CommandLine
