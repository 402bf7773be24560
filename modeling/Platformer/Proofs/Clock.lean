import Platformer.Proofs.Jump
import Platformer.Proofs.Parts
import Platformer.Proofs.Playable
import Platformer.Proofs.Snapshot

/-! # The frame clock

The clock turns time stamps into frame times: the milliseconds since the stamp before, none of them when
the clock went back and at most a hundred, in sixteenths of a nominal frame. All of these numbers are
exact, so that no time is lost in them, and what passes between two readings has no part in them.

* **`isParts_millis`**, **`clampTime_millis`** — the frame time of a number of milliseconds, and what the
  bound of an ordinary run makes of it.
* **`IsClockTime`**, **`Game.isClockTime_of_advanceClock`** — the frame times of the clock.
* **`Game.frameTimes`** — the frame times of the readings in a run of calls.
* **`clockTimes`**, **`Game.frameTimes_eq`** — that they depend on the time stamps alone.
* **`intervals`**, **`sum_intervals`** — the time between the readings, and what it adds up to.
* **`Game.clock_loses_no_time`** — every frame time of a run, and their sum. -/

namespace Platformer

/-! ### Milliseconds -/

/-- **The frame time of milliseconds** is their exact count of sixteenths. -/
theorem isParts_millis {n : ℕ} (hn : n ≤ 2 ^ 24) : (millis n).IsParts 4 n := by
  have hframe : nominalFrame.Exactly (2 ^ 4) := by decide +kernel
  refine (Single.isParts_ofNat hn).div_two_pow hframe ?_ (by decide)
  rw [Nat.abs_cast]
  exact_mod_cast hn

/-- More milliseconds are no shorter a frame time, even past the end of the format. -/
theorem millis_le_millis {m n : ℕ} (h : m ≤ n) : millis m ≤ millis n := by
  have hframe : nominalFrame.isFinite = true ∧ 0 < nominalFrame.value := by decide +kernel
  exact Single.div_le_div_right (Single.ofNat_le_ofNat h) hframe.1 hframe.2

/-- **The bound of an ordinary run** leaves a hundred milliseconds and what is less. -/
theorem clampTime_millis (n : ℕ) :
    Game.clampTime (millis n) Tuning.standard.frameTimeMax = .ok (millis (min n 100)) := by
  have hbound : Tuning.standard.frameTimeMax = millis 100 := rfl
  have hzero : 0 ≤ millis 0 := by decide +kernel
  have hnonneg : ¬ millis n < 0 := fun hneg =>
    Single.not_le_of_lt hneg (Single.le_trans hzero (millis_le_millis n.zero_le))
  have hclamp : (millis n).clamp? (millis 100) = some (millis (min n 100)) := by
    rw [Single.clamp?, if_pos (Single.le_trans hzero (millis_le_millis (Nat.zero_le 100))),
      if_neg hnonneg]
    dsimp only
    rcases Nat.lt_or_ge 100 n with hlong | hshort
    · have hnext : millis 100 < millis 101 := by decide +kernel
      rw [if_pos (Single.lt_of_lt_of_le hnext (millis_le_millis hlong)), Nat.min_eq_right hlong.le]
    · rw [if_neg fun hover => Single.not_le_of_lt hover (millis_le_millis hshort),
        Nat.min_eq_left hshort]
  unfold Game.clampTime
  rw [hbound, hclamp]

/-- **The frame times of the clock**: up to a hundred milliseconds, exactly. -/
def IsClockTime (dt : Single) : Prop := ∃ n : ℕ, n ≤ 100 ∧ dt.IsParts 4 n

/-- Up to a hundred milliseconds are a frame time of the clock. -/
theorem isClockTime_millis (n : ℕ) : IsClockTime (millis (min n 100)) :=
  ⟨min n 100, Nat.min_le_right n 100,
    isParts_millis ((Nat.min_le_right n 100).trans (by decide))⟩

/-! ### One reading -/

/-- The milliseconds since the time stamp before, as many as a nominal frame has for the first
stamp. -/
def sinceLast : (last : Option ℕ) → (now : ℕ) → ℕ
  | some last, now => now - last
  | none, _ => 16

namespace Game

variable {game next : Game} {call : Call} {calls : List Call}

/-- **A reading of the clock** has a result, and changes nothing but the time stamp. -/
theorem advanceClock_of_standard (h : game.tuning = .standard) (now : ℕ) :
    game.advanceClock now =
      .ok (millis (min (sinceLast game.lastTime now) 100), { game with lastTime := some now }) := by
  have htime (n : ℕ) :
      frameTime (.ofNat n) game.tuning.frameTimeMax = .ok (millis (min n 100)) := by
    rw [h]
    exact clampTime_millis n
  unfold advanceClock
  cases game.lastTime with
  | none => exact ok_bind (htime 16) _
  | some last => exact ok_bind (htime (now - last)) _

/-- **Whatever the clock shows** is one of its frame times. -/
theorem isClockTime_of_advanceClock (htuning : game.tuning = .standard) {now : ℕ} {dt : Single}
    (h : game.advanceClock now = .ok (dt, next)) : IsClockTime dt := by
  rw [advanceClock_of_standard htuning] at h
  cases h
  exact isClockTime_millis _

end Game

/-! ### The readings of a run -/

/-- The time stamp that a call gives to the clock. -/
def Call.stamp? : Call → Option ℕ
  | .advanceClock now => some now
  | _ => none

/-- The time stamps of calls in order. -/
def stamps (calls : List Call) : List ℕ := calls.filterMap Call.stamp?

/-- The frame times of time stamps in order, after an earlier one. -/
def clockTimes : (last : Option ℕ) → (stamps : List ℕ) → List Single
  | _, [] => []
  | last, now :: stamps => millis (min (sinceLast last now) 100) :: clockTimes (some now) stamps

namespace Game

variable {game next : Game} {call : Call} {calls : List Call}

/-- **The frame times that the clock shows** during calls in order. -/
def frameTimes (game : Game) : List Call → Except Fault (List Single)
  | [] => .ok []
  | .advanceClock now :: calls => do
    let (dt, next) ← game.advanceClock now
    return dt :: (← next.frameTimes calls)
  | call :: calls => do (← game.perform call).frameTimes calls

/-- A call that does not read the clock gives no frame time. -/
theorem frameTimes_cons (hcall : call.stamp? = none) (hperform : game.perform call = .ok next)
    (calls : List Call) : game.frameTimes (call :: calls) = next.frameTimes calls := by
  cases call with
  | advanceClock now => cases hcall
  | _ => exact ok_bind hperform _

/-- **No other call changes the time stamp**, not even one that begins a new run. -/
theorem lastTime_of_perform (hcall : call.stamp? = none) (h : game.perform call = .ok next) :
    next.lastTime = game.lastTime := by
  cases call with
  | tick c dt =>
    obtain ⟨⟨played, notices⟩, htick, hnext⟩ := bind_eq_ok h
    cases hnext
    exact lastTime_of_tick htick
  | advanceClock now => cases hcall
  | shoot =>
    cases h
    cases hshot : game.shoot? with
    | none => rfl
    | some next =>
      obtain ⟨shot, timer, -, rfl⟩ := shoot?_eq_some hshot
      rfl
  | restart =>
    obtain ⟨⟨restarted, notices⟩, hrestart, hnext⟩ := bind_eq_ok h
    cases hnext
    obtain ⟨layout, -, hrestarted⟩ := bind_eq_ok hrestart
    cases hrestarted
    rfl
  | compact =>
    cases h
    rfl

/-- **The frame times of a run** depend on its time stamps alone, and the game holds the last of
these. -/
theorem frameTimes_eq (h : game.tuning = .standard) (calls : List Call) :
    ∃ last, game.run calls = .ok last ∧ last.tuning = .standard ∧
      last.lastTime = (stamps calls).getLast?.or game.lastTime ∧
      game.frameTimes calls = .ok (clockTimes game.lastTime (stamps calls)) := by
  -- for every game, since a call leaves another one, of which a reading needs the time stamp alone
  induction calls generalizing game with
  | nil => exact ⟨game, rfl, h, rfl, rfl⟩
  | cons call calls ih =>
    cases hcall : call.stamp? with
    | none =>
      obtain ⟨next, hperform, htuning⟩ := exists_perform (h ▸ Tuning.playable_standard) call
      obtain ⟨last, hrun, hlast, hstamp, htimes⟩ := ih (htuning.trans h)
      have hstamps : stamps (call :: calls) = stamps calls := List.filterMap_cons_none hcall
      rw [lastTime_of_perform hcall hperform] at hstamp htimes
      rw [hstamps]
      exact ⟨last, (ok_bind hperform _).trans hrun, hlast, hstamp,
        (frameTimes_cons hcall hperform calls).trans htimes⟩
    | some now =>
      obtain rfl : call = .advanceClock now := by
        cases call <;> simp_all [Call.stamp?]
      have hread := advanceClock_of_standard h now
      have hkept : { game with lastTime := some now }.tuning = .standard := h
      obtain ⟨last, hrun, hlast, hstamp, htimes⟩ := ih hkept
      have hstamps : stamps (.advanceClock now :: calls) = now :: stamps calls := rfl
      refine ⟨last, ?_, hlast, ?_, ?_⟩
      · have hperform : game.perform (.advanceClock now) = .ok { game with lastTime := some now } :=
          ok_bind hread _
        exact (ok_bind hperform _).trans hrun
      · rw [hstamp, hstamps, List.getLast?_cons]
        cases (stamps calls).getLast? <;> rfl
      · have hcons : game.frameTimes (.advanceClock now :: calls) = _ := ok_bind hread _
        rw [hcons]
        exact ok_bind htimes _

end Game

/-! ### The time between the readings -/

/-- **The milliseconds from each time stamp to the next**: none where the clock went back, and at most a
hundred. -/
def intervals (stamps : List ℕ) : List ℚ :=
  List.zipWith (fun previous now => min (max ((now : ℚ) - previous) 0) 100) stamps stamps.tail

/-- The milliseconds of a frame time, as a rational. -/
theorem cast_interval (previous now : ℕ) :
    ((min (now - previous) 100 : ℕ) : ℚ) = min (max ((now : ℚ) - previous) 0) 100 := by
  rw [Nat.cast_min, Nat.cast_ofNat]
  rcases Nat.le_total previous now with hforward | hback
  · have hle : (previous : ℚ) ≤ now := by exact_mod_cast hforward
    rw [Nat.cast_sub hforward, max_eq_left (by linarith)]
  · have hle : (now : ℚ) ≤ previous := by exact_mod_cast hback
    rw [Nat.sub_eq_zero_of_le hback, max_eq_right (by linarith), Nat.cast_zero]

/-- The first frame time is one. -/
theorem eq_one_of_mem_head?_clockTimes {stamps : List ℕ} {dt : Single}
    (h : dt ∈ (clockTimes none stamps).head?) : dt = 1 := by
  have hone : millis 16 = 1 := by decide +kernel
  cases stamps with
  | nil => cases h
  | cons first stamps =>
    obtain rfl := Option.some.inj h
    exact hone

/-- After a time stamp, every frame time is the interval up to its own stamp, in sixteenths. -/
theorem forall₂_clockTimes (previous : ℕ) (stamps : List ℕ) :
    List.Forall₂ (fun dt interval => dt.Exactly (interval / 16)) (clockTimes (some previous) stamps)
      (intervals (previous :: stamps)) := by
  induction stamps generalizing previous with
  | nil => exact .nil
  | cons now stamps ih =>
    refine .cons ?_ (ih now)
    have hparts := isParts_millis ((Nat.min_le_right (now - previous) 100).trans (by decide))
    rw [Single.IsParts, Int.cast_natCast, cast_interval] at hparts
    norm_num at hparts
    exact hparts

/-- **Every frame time after the first** is the interval up to its time stamp, in sixteenths. -/
theorem forall₂_tail_clockTimes (stamps : List ℕ) :
    List.Forall₂ (fun dt interval => dt.Exactly (interval / 16)) (clockTimes none stamps).tail
      (intervals stamps) := by
  cases stamps with
  | nil => exact .nil
  | cons first stamps => exact forall₂_clockTimes first stamps

/-- Time stamps that never go back, and that are at most a hundred milliseconds apart. -/
def Steady (stamps : List ℕ) : Prop :=
  stamps.IsChain fun previous now => previous ≤ now ∧ now ≤ previous + 100

instance (stamps : List ℕ) : Decidable (Steady stamps) :=
  inferInstanceAs (Decidable (stamps.IsChain _))

/-- **Steady intervals add up** to the time from the first stamp to the last. -/
theorem sum_intervals {first latest : ℕ} {stamps : List ℕ} (h : Steady (first :: stamps))
    (hlatest : (first :: stamps).getLast? = some latest) :
    (intervals (first :: stamps)).sum = (latest : ℚ) - first := by
  induction stamps generalizing first with
  | nil =>
    obtain rfl := Option.some.inj hlatest
    exact (sub_self _).symm
  | cons now stamps ih =>
    obtain ⟨⟨hforward, hshort⟩, hrest⟩ := List.isChain_cons_cons.mp h
    have hle : (first : ℚ) ≤ now := by exact_mod_cast hforward
    have hbound : (now : ℚ) ≤ first + 100 := by exact_mod_cast hshort
    have hcons : intervals (first :: now :: stamps) =
        min (max ((now : ℚ) - first) 0) 100 :: intervals (now :: stamps) := rfl
    rw [List.getLast?_cons_cons] at hlatest
    rw [hcons, List.sum_cons, ih hrest hlatest, max_eq_left (by linarith), min_eq_left (by linarith)]
    ring

/-- The milliseconds of exact frame times. -/
theorem map_value_of_forall₂ {times : List Single} {intervals : List ℚ}
    (h : List.Forall₂ (fun dt interval => dt.Exactly (interval / 16)) times intervals) :
    times.map (fun dt => 16 * dt.value) = intervals := by
  induction h with
  | nil => rfl
  | cons hexact _ ih =>
    rw [List.map_cons, ih, hexact.value_eq]
    congr 1
    ring

/-- A reading gives one frame time. -/
theorem length_clockTimes (last : Option ℕ) (stamps : List ℕ) :
    (clockTimes last stamps).length = stamps.length := by
  induction stamps generalizing last with
  | nil => rfl
  | cons now stamps ih => rw [clockTimes, List.length_cons, List.length_cons, ih]

/-- The bound of an ordinary run leaves the frame times of the clock as they are. -/
theorem clampTime_of_mem_clockTimes {last : Option ℕ} {stamps : List ℕ} {dt : Single}
    (h : dt ∈ clockTimes last stamps) :
    Game.clampTime dt Tuning.standard.frameTimeMax = .ok dt := by
  induction stamps generalizing last with
  | nil => cases h
  | cons now stamps ih =>
    rw [clockTimes, List.mem_cons] at h
    rcases h with hfirst | hrest
    · have hclamp := clampTime_millis (min (sinceLast last now) 100)
      rwa [Nat.min_assoc, Nat.min_self, ← hfirst] at hclamp
    · exact ih hrest

namespace Game

/-- **The clock loses no time.** From the start of a game on, whatever calls are made and whatever time
stamps are read among them, the first frame time is one, and every later one is exactly the interval up
to its time stamp, in sixteenths; the game holds the last stamp, and the bound of a frame changes none
of the frame times. So as long as the stamps are steady, the frame times after the first add up to all
the time that has passed. -/
theorem clock_loses_no_time (seed : UInt64) (calls : List Call) :
    ∃ game notices last times, start seed = .ok (game, notices) ∧ game.run calls = .ok last ∧
      game.frameTimes calls = .ok times ∧
      times.length = (stamps calls).length ∧
      (∀ dt ∈ times.head?, dt = 1) ∧
      List.Forall₂ (fun dt interval => dt.Exactly (interval / 16)) times.tail
        (intervals (stamps calls)) ∧
      last.lastTime = (stamps calls).getLast? ∧
      (∀ dt ∈ times, clampTime dt last.tuning.frameTimeMax = .ok dt) ∧
      (Steady (stamps calls) → ∀ first ∈ (stamps calls).head?, ∀ latest ∈ (stamps calls).getLast?,
        (times.tail.map fun dt => 16 * dt.value).sum = (latest : ℚ) - first) := by
  obtain ⟨game, notices, hstart, htuning⟩ := exists_start Tuning.playable_standard seed
  obtain ⟨last, hrun, hlast, hstamp, htimes⟩ := frameTimes_eq htuning calls
  obtain ⟨layout, -, hgame⟩ := bind_eq_ok hstart
  have hnone : game.lastTime = none := by
    cases hgame
    rfl
  rw [hnone] at hstamp htimes
  rw [Option.or_none] at hstamp
  refine ⟨game, notices, last, _, hstart, hrun, htimes, length_clockTimes _ _,
    fun dt hdt => eq_one_of_mem_head?_clockTimes hdt, forall₂_tail_clockTimes _, hstamp,
    fun dt hdt => hlast ▸ clampTime_of_mem_clockTimes hdt, ?_⟩
  intro hsteady first hfirst latest hlatest
  rw [map_value_of_forall₂ (forall₂_tail_clockTimes _)]
  obtain ⟨rest, hrest⟩ := List.head?_eq_some_iff.mp hfirst
  rw [hrest] at hsteady hlatest ⊢
  exact sum_intervals hsteady hlatest

/-- Three readings with a frame, a shot and a new run among them. -/
def readings : List Call :=
  [.advanceClock 1000, .tick {} 1, .advanceClock 1016, .shoot, .restart, .advanceClock 1116]

/-- The two frame times after the first are those of 16 and of 100 milliseconds. -/
theorem clock_loses_no_time_across_restart :
    ∃ game notices times, start 7 = .ok (game, notices) ∧ game.frameTimes readings = .ok times ∧
      Steady (stamps readings) ∧ times.length = 3 ∧
      (times.tail.map fun dt => 16 * dt.value).sum = 116 := by
  obtain ⟨game, notices, last, times, hstart, -, htimes, hlength, -, -, -, -, hsum⟩ :=
    clock_loses_no_time 7 readings
  have hsteady : Steady (stamps readings) := by decide
  have htotal := hsum hsteady 1000 rfl 1116 rfl
  refine ⟨game, notices, times, hstart, htimes, hsteady, hlength, htotal.trans ?_⟩
  norm_num

end Game

end Platformer
