/-
# Settings

The settings of the service come from environment variables whose names start with
`SAT_RARITY_`, in letters of any case. Of two variables for one setting the later
one counts. All settings have a value if they are not given.

Key definitions: `Settings`, `Settings.read`, `LogLevel`.
-/
import RareSats.Service.Environment
import RareSats.Wire.Lax

namespace RareSats

/-- The settings of the service. -/
structure Settings where
  appName : Text
  debug : Bool
  logLevel : Text
  /-- The file of the snapshot to start with, which may be none. -/
  indexPath : Text
  eagerRangeTables : Bool
deriving DecidableEq, Repr

/-- The weight of the messages that are logged. -/
inductive LogLevel where
  | critical
  | error
  | warning
  | info
  | debug
  | notSet
deriving DecidableEq, Repr

namespace LogLevel

/-- The name of a level. -/
def name : LogLevel → String
  | critical => "CRITICAL"
  | error => "ERROR"
  | warning => "WARNING"
  | info => "INFO"
  | debug => "DEBUG"
  | notSet => "NOTSET"

/-- The names by which levels are set. Two levels have a second name. -/
def names : List (String × LogLevel) :=
  [("CRITICAL", critical), ("FATAL", critical), ("ERROR", error), ("WARN", warning),
    ("WARNING", warning), ("INFO", info), ("DEBUG", debug), ("NOTSET", notSet)]

/-- The level of a name, which must be one. -/
def ofName (name : Text) : Except Error LogLevel :=
  match name.string?.bind fun s => names.lookup s with
  | some level => .ok level
  | none => .error (.unknownLogLevel name)

/-- Every level is set by its own name. -/
theorem ofName_name (level : LogLevel) : ofName level.name = .ok level := by
  rw [ofName, Text.string?_ofString]
  cases level <;> rfl

end LogLevel

namespace Settings

/-- What the names of all variables start with. -/
def namespaceOfNames : String := "sat_rarity_"

/-- The variable is for the setting. -/
def isFor (setting : String) (name : Text) : Bool :=
  name.string?.map (·.map Char.toLower) = some (namespaceOfNames ++ setting)

/-- The value of the variable for a setting. -/
def valueOf? (environment : Environment) (setting : String) : Option Text :=
  (environment.reverse.find? fun v => isFor setting v.1).map (·.2)

/-- A setting that is a boolean. -/
def checkFlag (environment : Environment) (setting : String) : Checked Bool :=
  match valueOf? environment setting with
  | some word => (checkBoolean (.str word)).under (.key setting)
  | none => .ok false

/-- The settings in an environment. -/
def read (environment : Environment) : Checked Settings :=
  (checkFlag environment "debug").both (checkFlag environment "eager_range_tables")
    |>.map fun (debug, eager) => {
      appName := (valueOf? environment "app_name").getD "sat-rarity"
      debug := debug
      logLevel := (valueOf? environment "log_level").getD "INFO"
      indexPath := (valueOf? environment "index_path").getD ""
      eagerRangeTables := eager }

end Settings

end RareSats
