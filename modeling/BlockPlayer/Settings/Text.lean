import BlockPlayer.Settings.Basic
import BlockPlayer.Toml.Printer

/-!
# Settings as a text

Settings are written as a TOML document with one table for each group. The text can serve as a file of
settings again.
-/

namespace BlockPlayer.Settings

/-- The settings as tables. -/
def tables (s : Settings) : List (String × List (String × Toml)) :=
  [("playback",
    [("base_period_ms", .whole s.playback.period.toNat),
     ("default_speed", .double s.playback.speed),
     ("speed_options", .array (s.playback.offered.map .double)),
     ("reschedule_on_speed_change", .bool s.playback.reschedule)]),
   ("compiler",
    [("unrecognized_blocks", .text s.compiler.policy.name),
     ("max_instructions", .whole s.compiler.limit.toNat)])]

/-- The text of the settings, unless a number is too large for the format. -/
def text? (s : Settings) : Option String := (Toml.document? s.tables).map String.ofList

/-- What is said of settings that have no text. -/
def textMessage : String := "Failed to serialize configuration"

end BlockPlayer.Settings
