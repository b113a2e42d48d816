import BlockPlayer.Decimal.Nearest
import BlockPlayer.Decimal.Layout

/-!
# Playback speed

A speed is a finite multiplier above zero. It divides the time between two instructions: at twice
the speed they follow each other in half the time. Times are whole nanoseconds, and no period is
shorter than one.
-/

namespace BlockPlayer

/-- Why a multiplier is no speed. -/
structure SpeedError where
  multiplier : Float
  deriving DecidableEq

def SpeedError.message (e : SpeedError) : String :=
  "Invalid playback speed " ++ Layout.message.write e.multiplier
    ++ ": must be a positive, finite multiplier"

/-- Whether a multiplier is finite and above zero. -/
def Speed.admits (multiplier : Float) : Bool := multiplier.isFinite && decide (0 < multiplier)

/-- A playback rate. -/
structure Speed where
  multiplier : Float
  admitted : Speed.admits multiplier = true
  deriving DecidableEq

namespace Speed

/-- The speed with a given multiplier, if it is one. -/
def ofMultiplier (multiplier : Float) : Except SpeedError Speed :=
  if h : admits multiplier = true then .ok ⟨multiplier, h⟩ else .error ⟨multiplier⟩

theorem ofMultiplier_multiplier (s : Speed) : ofMultiplier s.multiplier = .ok s := by
  rw [ofMultiplier, dif_pos s.admitted]

/-- The speed at which periods are taken as they are. -/
def normal : Speed := ⟨1, by decide⟩

/-- The multipliers that players are offered if nothing else is set. -/
def offered : List Float := [0.5, 0.75, 1, 1.25, 1.5, 1.75, 2]

/-- A speed as people read it. -/
def text (s : Speed) : String := Layout.message.write s.multiplier ++ "x"

/--
The time between two instructions, in nanoseconds: the base period over the multiplier, as doubles,
rounded to a whole number with halves rounded up, and at least one.
-/
def period (s : Speed) (base : Nat) : Nat :=
  max 1 (Double.ofFloat (Double.ofNat base / s.multiplier)).round

theorem period_pos (s : Speed) (base : Nat) : 0 < s.period base := by
  unfold period
  omega

end Speed

end BlockPlayer
