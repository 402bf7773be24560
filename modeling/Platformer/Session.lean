import Platformer.Picture
import Platformer.Tick

/-! # Headless sessions

A session lets the pilot play for a number of frames at the nominal frame rate, makes the picture of
every frame, and keeps count of the games it played.

* **`Session`** — a session in progress; **`Session.advance`** plays one frame of it.
* **`Session.play`** — the frames of a session in order.
* **`Summary`** — what is known at the end; **`runSession`** plays a session from a seed.
* **`Arguments`** — the seed and the number of frames that the command line gives. -/

namespace Platformer

/-- A session in progress. -/
structure Session where
  game : Game
  /-- The time stamp of the next frame. -/
  now : Nat
  /-- The number of the next frame. -/
  frame : Nat
  /-- The best score of a finished game. -/
  best : Nat
  /-- The number of games begun. -/
  games : Nat
  /-- The vertices of all pictures so far. -/
  vertices : Nat

namespace Session

/-- The sheet of a session: images for the player and the monsters in a grid of four by two. -/
def sheet : Atlas × List Notice :=
  Atlas.ofGrid 4 2 [⟨.player, 0, 0⟩, ⟨.playerShooting, 1, 0⟩, ⟨.monster, 2, 0⟩]

/-- The milliseconds from one frame to the next. -/
def frameInterval : Nat := nominalFrame.toNat (UInt64.size - 1)

/-- Progress is reported in every frame whose number is a multiple of this. -/
def reportInterval : Nat := 600

/-- A session that begins with a game. -/
def begin (game : Game) : Session where
  game
  now := 0
  frame := 0
  best := 0
  games := 1
  vertices := 0

/-- Takes note of what happened in a frame: a finished game counts for the best score, a restart is
a further game. -/
def record (s : Session) : List Event → Session × List Notice
  | [] => (s, [])
  | .gameOver score :: events =>
    let (s', notices) := record { s with best := Nat.max s.best score } events
    (s', .gameFinished s.games s.frame score :: notices)
  | .restarted :: events => record { s with games := s.games + 1 } events
  | _ :: events => record s events

/-- Plays one frame. -/
def advance (s : Session) : Except Fault (Session × List Notice) := do
  let (dt, game) ← s.game.advanceClock s.now
  let (game, played) ← game.tick { idle := true } dt
  let (s, finished) := record { s with game, now := s.now + frameInterval } game.events
  let picture := game.picture sheet.1
  let report : List Notice :=
    if s.frame % reportInterval = 0 then
      [.progress s.frame game.score picture.drawn picture.skipped (activeCount game.platforms)]
    else []
  return ({ s with frame := s.frame + 1, vertices := s.vertices + picture.vertices.length },
    played ++ finished ++ report)

/-- Plays a number of frames, collecting the notices in reverse. -/
def play : (frames : Nat) → Session → List Notice → Except Fault (Session × List Notice)
  | 0, s, log => .ok (s, log)
  | frames + 1, s, log => do
    let (s, notices) ← s.advance
    play frames s (notices.reverse ++ log)

end Session

/-- What is known at the end of a session. -/
structure Summary where
  /-- The frames of the last run. -/
  ticks : Nat
  games : Nat
  best : Nat
  /-- The vertices of an average picture, rounded down. -/
  average : Nat
deriving DecidableEq, Repr

/-- The summary of a session after a number of frames. -/
def Session.summary (s : Session) (frames : Nat) : Summary where
  ticks := s.game.ticks
  games := s.games
  best := Nat.max s.best s.game.score
  average := s.vertices / Nat.max frames 1

/-- The notices of a summary. -/
def Summary.notices (s : Summary) : List Notice :=
  [.finalRun s.ticks, .finished s.games s.best s.average]

/-- Plays a session of a number of frames from a seed: its summary and all its notices. -/
def runSession (seed : UInt64) (frames : Nat) : Except Fault (Summary × List Notice) := do
  let (game, started) ← Game.start seed
  let (s, log) ← Session.play frames (.begin game) []
  let summary := s.summary frames
  return (summary,
    [.starting, .headless seed frames] ++ Session.sheet.2 ++ started ++ log.reverse ++
      summary.notices)

/-! ### The command line -/

/-- The natural that a text of decimal digits writes, with at most one plus sign before them. -/
def readNatural? (s : String) : Option Nat :=
  let digits := match s.toList with
    | '+' :: rest => rest
    | all => all
  if digits.isEmpty then none
  else if digits.all Char.isDigit then
    some (digits.foldl (fun n c => 10 * n + (c.toNat - '0'.toNat)) 0)
  else none

/-- The natural of an argument, if there is one and it is below a limit. -/
def readBelow? (limit : Nat) (argument : Option String) : Option Nat :=
  (argument.bind readNatural?).filter (· < limit)

/-- What a session is started with. -/
structure Arguments where
  seed : UInt64 := 42
  frames : Nat := 3600
deriving DecidableEq, Repr

/-- The arguments of a command line: a seed of 64 bits and a number of frames of 32 bits. What cannot
be read is left at its default, and further arguments are not looked at. -/
def Arguments.ofList (arguments : List String) : Arguments :=
  let standard : Arguments := {}
  { seed := ((readBelow? UInt64.size arguments[0]?).map UInt64.ofNat).getD standard.seed
    frames := (readBelow? UInt32.size arguments[1]?).getD standard.frames }

end Platformer
