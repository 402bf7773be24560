import Platformer.Rounding
import Platformer.Single.Basic
import Platformer.Single.Arithmetic
import Platformer.Single.Bits
import Platformer.Single.Text
import Platformer.Fault
import Platformer.Pcg32
import Platformer.Box
import Platformer.Viewport
import Platformer.Platform
import Platformer.Monster
import Platformer.Projectile
import Platformer.Player
import Platformer.Tuning
import Platformer.Knob
import Platformer.Controls
import Platformer.Event
import Platformer.Sprite
import Platformer.Notice
import Platformer.PlatformStore
import Platformer.Generation
import Platformer.Spawning
import Platformer.Contact
import Platformer.Game
import Platformer.Pilot
import Platformer.Tick
import Platformer.Atlas
import Platformer.Vertex
import Platformer.Picture
import Platformer.Session
import Platformer.Json.Numeral
import Platformer.Json.Basic
import Platformer.Json.Parser
import Platformer.Record
import Platformer.Main
import Platformer.Proofs.Contact
import Platformer.Proofs.Generation
import Platformer.Proofs.Monotone
import Platformer.Proofs.Run
import Platformer.Proofs.Frame
import Platformer.Proofs.Bounce
import Platformer.Proofs.Climb
import Platformer.Proofs.Safety
import Platformer.Proofs.Waves
import Platformer.Proofs.Alternation
import Platformer.Proofs.Landings
import Platformer.Proofs.Census
import Platformer.Proofs.Slots
import Platformer.Proofs.Playable
import Platformer.Proofs.Restart
import Platformer.Proofs.Gaps
import Platformer.Proofs.Fall
import Platformer.Proofs.Snapshot
import Platformer.Proofs.Magnitude
import Platformer.Proofs.Tilt
import Platformer.Proofs.Steering
import Platformer.Proofs.Patrol
import Platformer.Proofs.WellFormed
import Platformer.Proofs.Spread
import Platformer.Proofs.Notices
import Platformer.Proofs.Occupancy
import Platformer.Proofs.Coverage
import Platformer.Proofs.Layout
import Platformer.Proofs.Jump
import Platformer.Proofs.Picture
import Platformer.Proofs.Composition
import Platformer.Proofs.Coarse
import Platformer.Proofs.Visibility
import Platformer.Proofs.Session
import Platformer.Proofs.Summary
import Platformer.Proofs.Matching
import Platformer.Proofs.Cooldown
import Platformer.Proofs.Easing
import Platformer.Proofs.Curve
import Platformer.Proofs.Difficulty
import Platformer.Proofs.Pilot
import Platformer.Proofs.Clock
import Platformer.Proofs.Edges
import Platformer.Proofs.Slicing
import Platformer.Proofs.Reach
import Platformer.Proofs.SquareRoot
