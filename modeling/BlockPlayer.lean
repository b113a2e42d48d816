import BlockPlayer.Graph.Edit
import BlockPlayer.Mailbox
import BlockPlayer.Main
import BlockPlayer.Settings.Json
import BlockPlayer.Studio
import BlockPlayer.Proofs.Player.Change
import BlockPlayer.Proofs.Player.Timers
import BlockPlayer.Proofs.Player.Ledger
import BlockPlayer.Proofs.Player.Ticks
import BlockPlayer.Proofs.Player.Silence
import BlockPlayer.Proofs.Chain.Compile
import BlockPlayer.Proofs.Player.Loading
import BlockPlayer.Proofs.Studio.Following
import BlockPlayer.Proofs.Studio.Session
import BlockPlayer.Proofs.Graph.Loops
import BlockPlayer.Proofs.Graph.Links
import BlockPlayer.Proofs.Format.Saving
import BlockPlayer.Proofs.Graph.Compiled
import BlockPlayer.Proofs.Player.Course
import BlockPlayer.Proofs.Player.Reloading
import BlockPlayer.Proofs.Clock.Beat
import BlockPlayer.Proofs.Recital.Lines
import BlockPlayer.Proofs.Player.Marks
import BlockPlayer.Proofs.Player.Pace
import BlockPlayer.Proofs.Studio.Calls
import BlockPlayer.Proofs.Studio.Handles
import BlockPlayer.Proofs.Graph.Refusals
import BlockPlayer.Proofs.Studio.Refusals
import BlockPlayer.Proofs.Format.Stacks
import BlockPlayer.Proofs.Format.Exchange
import BlockPlayer.Proofs.Format.Readers
import BlockPlayer.Proofs.Format.Programs
import BlockPlayer.Proofs.Format.Sources
import BlockPlayer.Proofs.Graph.Undo
import BlockPlayer.Proofs.Graph.Order
import BlockPlayer.Proofs.Graph.Tour
import BlockPlayer.Proofs.Player.Rate
import BlockPlayer.Proofs.Clock.Schedule
import BlockPlayer.Proofs.Decimal.Bits
import BlockPlayer.Proofs.Settings.Checked
import BlockPlayer.Proofs.Settings.Layers
import BlockPlayer.Proofs.Settings.Sources
import BlockPlayer.Proofs.Decimal.Grids
import BlockPlayer.Proofs.Decimal.Nearest
import BlockPlayer.Proofs.Decimal.Digits
import BlockPlayer.Proofs.Toml.Words
import BlockPlayer.Proofs.Toml.Written
import BlockPlayer.Proofs.Toml.Documents
import BlockPlayer.Proofs.Settings.Text
