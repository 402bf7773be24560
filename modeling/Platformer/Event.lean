import Platformer.Platform

/-! # Events

* **`Event`** — what happened in a frame that a picture or a sound may follow. -/

namespace Platformer

/-- What happened in a frame. -/
inductive Event where
  /-- The player landed on the platform of a slot. -/
  | landed (slot : Nat) (kind : PlatformKind)
  /-- The platform of a slot broke. -/
  | platformBroken (slot : Nat)
  | shotFired
  | monsterSpawned
  | monsterKilled
  /-- The run ended with a score. -/
  | gameOver (score : Nat)
  | restarted
deriving DecidableEq, Repr

end Platformer
