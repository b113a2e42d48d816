import BlockPlayer.Compile
import BlockPlayer.Player.Basic

/-!
# Settings

How programs are compiled and played can be set. Settings come in two groups, each with defaults. Not
all of them make sense together, so they are checked as a whole before they are used.

* `Settings.validate` — what is wrong with some settings, if anything
* `Settings.speeds`, `Settings.playbackOptions` — what is made out of them
* `Settings.selectSpeed` — a speed that somebody asks for, if it is on offer
-/

namespace BlockPlayer

structure PlaybackSettings where
  /-- The time between two instructions at normal speed, in milliseconds. -/
  period : UInt64
  /-- The speed unless somebody asks for another. -/
  speed : Float
  /-- The multipliers that are on offer, in the order in which they are listed. -/
  offered : List Float
  /-- Whether a change of speed is felt at once and not only from the next start on. -/
  reschedule : Bool
  deriving DecidableEq

structure CompileSettings where
  policy : Policy
  limit : UInt64
  deriving DecidableEq

/-- All settings. -/
structure Settings where
  playback : PlaybackSettings
  compiler : CompileSettings
  deriving DecidableEq

def PlaybackSettings.default : PlaybackSettings := ⟨700, 1, Speed.offered, false⟩

def CompileSettings.default : CompileSettings := ⟨.skip, 1000⟩

def Settings.default : Settings := ⟨.default, .default⟩

/-! ## What can be wrong -/

/-- What is wrong with settings. -/
inductive SettingsProblem
  | noPeriod
  | noSpeeds
  /-- A multiplier that is on offer is no speed. -/
  | badOffer (e : SpeedError)
  /-- The default multiplier is no speed. -/
  | badDefault (e : SpeedError)
  /-- The default is not on offer. -/
  | notOffered (multiplier : Float) (offered : List Float)
  | noLimit
  deriving DecidableEq

namespace SettingsProblem

/-- Multipliers as they are listed in messages. -/
def list (xs : List Float) : String := "[" ++ ", ".intercalate (xs.map Layout.listed.write) ++ "]"

def message : SettingsProblem → String
  | noPeriod => "playback.base_period_ms must be greater than zero"
  | noSpeeds => "playback.speed_options must not be empty"
  | badOffer e => "Invalid entry in playback.speed_options: " ++ e.message
  | badDefault e => "Invalid playback.default_speed: " ++ e.message
  | notOffered multiplier offered =>
    "playback.default_speed " ++ Layout.message.write multiplier
      ++ " is not one of playback.speed_options " ++ list offered
  | noLimit => "compiler.max_instructions must be greater than zero"

end SettingsProblem

namespace Settings

/-- The default speed. -/
def defaultSpeed (s : Settings) : Except SettingsProblem Speed :=
  (Speed.ofMultiplier s.playback.speed).mapError .badDefault

/-- The speed with a multiplier that is on offer. -/
def offeredSpeed (multiplier : Float) : Except SettingsProblem Speed :=
  (Speed.ofMultiplier multiplier).mapError .badOffer

/-- The speeds that are on offer, in their order. -/
def speeds (s : Settings) : Except SettingsProblem (List Speed) := s.playback.offered.mapM offeredSpeed

/-- The first thing that is wrong. The default is looked for among the multipliers as numbers. -/
def validate (s : Settings) : Except SettingsProblem Unit := do
  if s.playback.period = 0 then throw .noPeriod
  if s.playback.offered.isEmpty then throw .noSpeeds
  let _ ← s.speeds
  let _ ← s.defaultSpeed
  if !s.playback.offered.contains s.playback.speed then
    throw (.notOffered s.playback.speed s.playback.offered)
  if s.compiler.limit = 0 then throw .noLimit

/-! ## What settings are for -/

/-- The time between two instructions at normal speed, in nanoseconds. -/
def base (s : Settings) : Nat := s.playback.period.toNat * 1000000

def playbackOptions (s : Settings) : Except SettingsProblem PlaybackOptions := do
  let speed ← s.defaultSpeed
  .ok ⟨s.base, speed, s.playback.reschedule⟩

def compileOptions (s : Settings) : CompileOptions := ⟨s.compiler.policy, s.compiler.limit.toNat⟩

/-- One line for each speed on offer, the default marked. -/
def speedLines (s : Settings) : Except SettingsProblem (List String) := do
  let default ← s.defaultSpeed
  let speeds ← s.speeds
  .ok (speeds.map fun speed => (if speed = default then "* " else "  ") ++ speed.text)

end Settings

/-! ## Asking for a speed -/

/-- Why a speed was not selected. -/
inductive SelectError
  | speed (e : SpeedError)
  | settings (p : SettingsProblem)
  | unavailable (s : Speed) (offered : List Speed)
  deriving DecidableEq

def SelectError.message : SelectError → String
  | speed e => e.message
  | settings p => p.message
  | unavailable s offered =>
    "Speed " ++ s.text ++ " is not available (options: "
      ++ ", ".intercalate (offered.map Speed.text) ++ ")"

/-- The speed with a given multiplier, if it is on offer. -/
def Settings.selectSpeed (s : Settings) (multiplier : Float) : Except SelectError Speed := do
  let speed ← (Speed.ofMultiplier multiplier).mapError .speed
  let speeds ← s.speeds.mapError .settings
  if speed ∈ speeds then .ok speed else .error (.unavailable speed speeds)

end BlockPlayer
