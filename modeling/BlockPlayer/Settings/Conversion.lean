import BlockPlayer.Decimal.Numeral
import BlockPlayer.Settings.Basic
import BlockPlayer.Settings.Layer

/-!
# Settings from data

A setting is taken from data of any type that can stand for it: numbers, truth values and texts are taken
for each other where that makes sense. A group of settings is a table, or a list in which they stand in their
order. Of what is more than that nothing is read. A place that is left empty stands for no setting.
-/

namespace BlockPlayer

namespace Datum

/-- Texts that stand for a truth value. -/
def truth? (text : String) : Option Bool :=
  if Folded.text text ∈ ["true", "on", "yes"] then some true
  else if Folded.text text ∈ ["false", "off", "no"] then some false
  else none

/-- A whole number of 64 bits without a minus. Doubles are rounded, and cut off at the ends. -/
def toWord? : Datum → Option UInt64
  | whole n => if 0 ≤ n ∧ n.toNat < Double.wordEnd then some (UInt64.ofNat n.toNat) else none
  | double x => some (UInt64.ofNat (Double.ofFloat x).round)
  | bool b => some (if b then 1 else 0)
  | text s =>
    match truth? s with
    | some b => some (if b then 1 else 0)
    | none => (Numeral.word? s).map UInt64.ofNat
  | nothing | array _ | table _ => none

/-- A double. -/
def toDouble? : Datum → Option Float
  | whole n => some (Double.nearest (decide (n < 0)) n.natAbs 0)
  | double x => some x
  | bool b => some (if b then 1 else 0)
  | text s =>
    match truth? s with
    | some b => some (if b then 1 else 0)
    | none => Numeral.double? s
  | nothing | array _ | table _ => none

/-- A truth value. Of numbers, zero is false. -/
def toFlag? : Datum → Option Bool
  | whole n => some (decide (n ≠ 0))
  | double x => some (x != 0)
  | bool b => some b
  | text s => if s = "1" then some true else if s = "0" then some false else truth? s
  | nothing | array _ | table _ => none

/-- A list of doubles. -/
def toDoubles? : Datum → Option (List Float)
  | array ds => ds.mapM toDouble?
  | _ => none

/-- A policy by its name, in letters of either case. The name may be the only one in a table. -/
def toPolicy? : Datum → Option Policy
  | text s | table [(s, _)] => Policy.ofName? (Folded.text s)
  | _ => none

/-- Whether there can be settings in it. -/
def isGroup : Datum → Bool
  | table _ | array _ => true
  | _ => false

/-- What a group says about the setting with a name, or with a place among the others. -/
def setting? (name : String) (place : Nat) : Datum → Option Datum
  | table ms => ms.lookup name
  | array ds => ds[place]?
  | _ => none

/-- A setting of a group, or the default if nothing is said about it. -/
def setting {α : Type} (d : Datum) (name : String) (place : Nat) (read : Datum → Option α)
    (default : α) : Option α :=
  match d.setting? name place with
  | none => some default
  | some d => read d

end Datum

def PlaybackSettings.ofDatum? (d : Datum) : Option PlaybackSettings := do
  guard d.isGroup
  let period ← d.setting "base_period_ms" 0 Datum.toWord? default.period
  let speed ← d.setting "default_speed" 1 Datum.toDouble? default.speed
  let offered ← d.setting "speed_options" 2 Datum.toDoubles? default.offered
  let reschedule ← d.setting "reschedule_on_speed_change" 3 Datum.toFlag? default.reschedule
  some ⟨period, speed, offered, reschedule⟩

def CompileSettings.ofDatum? (d : Datum) : Option CompileSettings := do
  guard d.isGroup
  let policy ← d.setting "unrecognized_blocks" 0 Datum.toPolicy? default.policy
  let limit ← d.setting "max_instructions" 1 Datum.toWord? default.limit
  some ⟨policy, limit⟩

/-- The settings that the members of a table say. -/
def Settings.ofMembers? (ms : Members) : Option Settings := do
  let playback ← (Datum.table ms).setting "playback" 0 PlaybackSettings.ofDatum? .default
  let compiler ← (Datum.table ms).setting "compiler" 1 CompileSettings.ofDatum? .default
  some ⟨playback, compiler⟩

end BlockPlayer
