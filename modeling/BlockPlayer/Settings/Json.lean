import BlockPlayer.Format.Program
import BlockPlayer.Settings.Basic

/-!
# Settings in JSON

The two groups are records, and so are the settings as a whole. Whatever is left out has its default.
-/

namespace BlockPlayer

open Json (Draft Error Field Record)

/-- A whole number without a minus. `title` names the type in errors. -/
def Json.readWord (title : String) (d : Draft) : Except Error UInt64 :=
  (Json.readWhole title d).map UInt64.ofNat

def PlaybackSettings.record : Record PlaybackSettings :=
  ⟨"struct PlaybackConfig",
    [⟨"base_period_ms", false, fun d s => do .ok { s with period := ← Json.readWord "u64" d }⟩,
     ⟨"default_speed", false, fun d s => do .ok { s with speed := ← Json.readDouble d }⟩,
     ⟨"speed_options", false, fun d s => do
      .ok { s with offered := ← Json.readList Json.readDouble d }⟩,
     ⟨"reschedule_on_speed_change", false, fun d s => do
      .ok { s with reschedule := ← Json.readBool d }⟩]⟩

def CompileSettings.record : Record CompileSettings :=
  ⟨"struct CompilerConfig",
    [⟨"unrecognized_blocks", false, fun d s => do .ok { s with policy := ← Policy.read d }⟩,
     ⟨"max_instructions", false, fun d s => do .ok { s with limit := ← Json.readWord "usize" d }⟩]⟩

def Settings.record : Record Settings :=
  ⟨"struct Config",
    [⟨"playback", false, fun d s => do
      .ok { s with playback := ← PlaybackSettings.record.read .text .default d }⟩,
     ⟨"compiler", false, fun d s => do
      .ok { s with compiler := ← CompileSettings.record.read .text .default d }⟩]⟩

/-- Reads settings from a JSON text. They are not checked. -/
def Settings.ofText (text : String) : Except Error Settings :=
  Json.read (Settings.record.read .text .default) text

end BlockPlayer
