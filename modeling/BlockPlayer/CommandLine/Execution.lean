import BlockPlayer.CommandLine.Arguments
import BlockPlayer.CommandLine.VariableFile
import BlockPlayer.Recital
import BlockPlayer.Saved
import BlockPlayer.Settings.Load
import BlockPlayer.Settings.Text

/-!
# What the program does

The program is a function of its words, the files and the variables around it. It gives a status and the
text that it prints, in pieces with the times at which they are printed, or the reason why it failed.
-/

namespace BlockPlayer.CommandLine

/-- Why the program failed. -/
inductive Failure
  | settings (e : SettingsError)
  | saved (e : SavedError)
  | speed (e : SelectError)
  | problem (p : SettingsProblem)
  /-- The settings have no text. -/
  | unwritable
  deriving DecidableEq

def Failure.message : Failure → String
  | settings e => "Failed to load configuration: " ++ e.message
  | saved e => e.message
  | speed e => e.message
  | problem p => p.message
  | unwritable => Settings.textMessage

/-- What comes of a run of the program. -/
structure Outcome where
  status : Nat
  /-- What is printed, with the times in milliseconds after the start. -/
  printed : List (Nat × String)
  failure : Option Failure
  deriving DecidableEq

/-- What the program finds around it. -/
structure Surroundings where
  files : Files
  vars : Environment
  /-- Ids for blocks that have none. -/
  fresh : Nat → BlockId

/-- The file with more variables. -/
def variableFile : String := ".env"

/-- All variables, if they can be set. -/
def Surroundings.environment? (s : Surroundings) : Option Environment :=
  match (s.files variableFile).text? with
  | some text => withFile? s.vars text
  | none => some s.vars

/-- What is printed at once, line by line. -/
def printLines (lines : List String) : List (Nat × String) := lines.map fun line => (0, line ++ "\n")

/-- The policy that somebody asks for. -/
def Job.policy? : Job → Option Policy
  | compile _ policy => policy
  | run .. | speeds | config => none

/-- How a program is played if somebody asks for a certain speed. -/
def optionsAt (settings : Settings) (speed : Option Float) : Except Failure PlaybackOptions := do
  let options ← settings.playbackOptions.mapError .problem
  match speed with
  | none => .ok options
  | some multiplier =>
    let speed ← (settings.selectSpeed multiplier).mapError .speed
    .ok { options with speed := speed }

/-- Carries a command out. -/
def carryOut (s : Surroundings) (settings : Settings) : Job → Except Failure (List (Nat × String))
  | .compile file _ => do
    let program ← (compileFile s.files s.fresh settings.compileOptions file).mapError .saved
    .ok (printLines [(Program.toJson program).pretty])
  | .run file speed single => do
    let program ← (compileFile s.files s.fresh settings.compileOptions file).mapError .saved
    let options ← optionsAt settings speed
    .ok ((Recital.ofProgram program options single).cues.map fun c => (c.time, c.event.text ++ "\n"))
  | .speeds => do
    let lines ← settings.speedLines.mapError .problem
    .ok (printLines lines)
  | .config =>
    match settings.text? with
    | some text => .ok [(0, text)]
    | none => .error .unwritable

/-- The file that a command reads. -/
def Job.file? : Job → Option String
  | compile file _ | run file _ _ => some file
  | speeds | config => none

/-- What the program asks of its caller. -/
def Invocation.wishes (i : Invocation) : Wishes := ⟨i.config, none, none, i.job.policy?⟩

/-- All files that may be read, besides the file with variables. -/
def Invocation.paths (i : Invocation) (env : Environment) : List String :=
  let settings := (Settings.namedPath? i.wishes env).getD Settings.usualPath
  settings :: ((Settings.candidates settings).map Prod.snd ++ i.job.file?.toList)

/-- Loads the settings and carries the command out. -/
def perform (s : Surroundings) (env : Environment) (i : Invocation) :
    Except Failure (List (Nat × String)) := do
  let settings ← (Settings.load s.files env i.wishes).mapError .settings
  carryOut s settings i.job

/-- The status of a run that breaks off, because of a variable that cannot be set or a key that cannot be one. -/
def brokenOff : Nat := 101

/-- **What the program does when it is called with some words.** -/
def execute (s : Surroundings) (words : List String) : Outcome :=
  match Invocation.ofWords words with
  | .error e => ⟨e.exitCode, [], none⟩
  | .ok i =>
    match s.environment? with
    | none => ⟨brokenOff, [], none⟩
    | some env =>
      match perform s env i with
      | .ok printed => ⟨0, printed, none⟩
      | .error (.settings (.unreadable .strangeKey)) => ⟨brokenOff, [], none⟩
      | .error e => ⟨1, [], some e⟩

end BlockPlayer.CommandLine
