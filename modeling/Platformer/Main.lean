import Platformer.Session

/-! # The command line

Plays a headless session. The arguments are the seed and the number of frames; the environment
variable `PLATFORMER_LOG` names the level of the notices that go to standard error, errors only when
it is not set. -/

namespace Platformer

/-- The level that the environment asks for. -/
def requestedLevel : IO Level := do
  let name ← IO.getEnv "PLATFORMER_LOG"
  return (name.bind Level.ofName?).getD .error

/-- Plays a session and writes its notices. -/
def playSession (arguments : Arguments) : IO UInt32 := do
  let level ← requestedLevel
  match runSession arguments.seed arguments.frames with
  | .ok (_, notices) =>
    for notice in Notice.atLeast level notices do
      IO.eprintln ("[" ++ notice.level.name ++ "] " ++ notice.text)
    return 0
  | .error fault =>
    IO.eprintln fault.message
    return 101

end Platformer

/-- Plays the session that the command line asks for. -/
def main (arguments : List String) : IO UInt32 :=
  Platformer.playSession (Platformer.Arguments.ofList arguments)
