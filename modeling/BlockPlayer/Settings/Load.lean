import BlockPlayer.Files
import BlockPlayer.Settings.Conversion
import BlockPlayer.Settings.Dialect
import BlockPlayer.Settings.Variable

/-!
# Loading settings

Settings are taken from four sources, each laid over the one before: defaults, a file, the variables of
the environment, and what the caller asks for. The file is the one that the caller names, else the one
that a variable names, and both must exist; else it is the usual one, if that exists. Where the path does not
lead to a file, it may be short of the ending that tells the dialect.
-/

namespace BlockPlayer

/-- What the caller of the program asks for. -/
structure Wishes where
  /-- The file of settings. -/
  path : Option String
  /-- The time between two instructions at normal speed, in milliseconds. -/
  period : Option UInt64
  speed : Option Float
  policy : Option Policy
  deriving DecidableEq

/-- Why there are no settings. -/
inductive SettingsError
  /-- There is no file under the path that was named. -/
  | missingFile (path : String)
  /-- The file is not in its dialect. -/
  | unreadable (f : ReadFault)
  /-- The file is in no dialect. -/
  | unknownDialect
  /-- A value does not suit its setting. -/
  | unsuitable
  | invalid (p : SettingsProblem)
  deriving DecidableEq

def SettingsError.message : SettingsError → String
  | missingFile path => "Config file not found: " ++ path
  | unreadable _ | unknownDialect => "Failed to read configuration sources"
  | unsuitable => "Failed to parse configuration"
  | invalid p => p.message

namespace Settings

/-- The file that is read if none is named. -/
def usualPath : String := "blockdrive.toml"

/-- The file that is named. -/
def namedPath? (w : Wishes) (env : Environment) : Option String :=
  w.path.or (env.lookup Environment.pathVariable)

/-- What a text of settings says. -/
def readMembers (d : Dialect) (text : String) : Except SettingsError Members :=
  (d.read text).mapError .unreadable

/-- The files that can be meant by a path that names none: those with the ending of a dialect more. -/
def candidates (path : String) : List (Dialect × String) :=
  Dialect.endings.filterMap fun (ending, d) => (withEnding? path ending).map fun path => (d, path)

/-- The dialect and the text of the file that is meant by a path. A file must be named for its dialect. -/
def findFile? (files : Files) (path : String) : Option (Dialect × String) :=
  match (files path).text? with
  | some text => (extension? path).bind fun ending =>
      (Dialect.endings.lookup ending).map fun d => (d, text)
  | none => (candidates path).findSome? fun (d, path) => (files path).text?.map fun text => (d, text)

/-- What the file says. A path that is named must lead somewhere, and to a file of settings. -/
def fileSource (files : Files) : Option String → Except SettingsError Members
  | some path =>
    if (files path).exists? then
      match findFile? files path with
      | some (d, text) => readMembers d text
      | none => .error .unknownDialect
    else .error (.missingFile path)
  | none =>
    match findFile? files usualPath with
    | some (d, text) => readMembers d text
    | none => .ok []

end Settings

/-- What the caller asks for, as a source of settings. -/
def Wishes.source (w : Wishes) : Members :=
  (w.period.toList.map fun n => ("playback.base_period_ms", Datum.whole n.toNat))
    ++ (w.speed.toList.map fun x => ("playback.default_speed", Datum.double x))
    ++ (w.policy.toList.map fun p => ("compiler.unrecognized_blocks", Datum.text p.name))

namespace Settings

/-- The settings that the sources say, checked. -/
def ofSources (file : Members) (env : Environment) (w : Wishes) : Except SettingsError Settings :=
  match ofMembers? ((Members.lay (Members.lay (Members.lay [] file) env.source) w.source)) with
  | none => .error .unsuitable
  | some s =>
    match s.validate with
    | .error p => .error (.invalid p)
    | .ok () => .ok s

/-- **Loads the settings from all sources.** -/
def load (files : Files) (env : Environment) (w : Wishes) : Except SettingsError Settings := do
  let file ← fileSource files (namedPath? w env)
  ofSources file env w

end Settings

end BlockPlayer
