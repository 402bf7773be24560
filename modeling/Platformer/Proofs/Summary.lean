import Platformer.Proofs.Session

/-! # The summary of a session

A session looks at the score only when a run ends and once at the end of all, and counts games only
when one begins. That its summary is nevertheless that of all frames together rests on three facts:
the score does not fall within a game, the pilot begins another game in the frame after the end of
one, and a line is written in the frame that ends a game and in no other.

* **`gameNumber`**, **`Final.IsTrue`** — the game that a frame belongs to, and when a line about a
  game is true.
* **`Session.Counts`**, **`Session.Lines`**, **`Session.Turns`** — what the counters, the lines and
  the order of the frames say about the games so far; each is kept by a frame.
* **`Session.play_tally`** — what holds of a session after any number of frames.
* **`Summary.Truthful`**, **`runSession_truthful`** — the summary is that of all frames. -/

namespace Platformer

/-! ### Games by number -/

/-- The number of the game that a frame belongs to. A restart is the first frame of a further
game. -/
def gameNumber (games : List Game) (frame : Nat) : Nat :=
  1 + (games.take (frame + 1)).countP (·.restarted)

/-- **A true line** is about a frame that ended a game with the score, in which the game had that
number; and no frame of the game comes later or has a greater score. -/
structure Final.IsTrue (line : Final) (games : List Game) : Prop where
  ended : ∃ game, games[line.frame]? = some game ∧ .gameOver line.score ∈ game.events ∧
    game.score = line.score
  number_eq : gameNumber games line.frame = line.game
  greatest : ∀ frame game, games[frame]? = some game → gameNumber games frame = line.game →
    frame ≤ line.frame ∧ game.score ≤ line.score

section

variable {games : List Game} {game : Game} {frame : Nat}

/-- A frame with a further one behind it is one of those before, or the further one. -/
theorem getElem?_concat_eq_some {x : Game} (h : (games ++ [game])[frame]? = some x) :
    frame < games.length ∧ games[frame]? = some x ∨ frame = games.length ∧ x = game := by
  rcases Nat.lt_trichotomy frame games.length with hlt | rfl | hgt
  · rw [List.getElem?_append_left hlt] at h
    exact Or.inl ⟨hlt, h⟩
  · rw [List.getElem?_concat_length] at h
    exact Or.inr ⟨rfl, (Option.some.inj h).symm⟩
  · rw [List.getElem?_eq_none (by simpa using Nat.succ_le_of_lt hgt)] at h
    cases h

/-- Later frames do not change the number of an earlier one. -/
theorem gameNumber_concat (h : frame < games.length) :
    gameNumber (games ++ [game]) frame = gameNumber games frame := by
  rw [gameNumber, gameNumber, List.take_append_of_le_length h]

/-- The number of the last frame counts all restarts. -/
theorem gameNumber_length :
    gameNumber (games ++ [game]) games.length = 1 + (games ++ [game]).countP (·.restarted) := by
  rw [gameNumber, List.take_of_length_le (by simp)]

/-- No frame has a greater number than there are games. -/
theorem gameNumber_le : gameNumber games frame ≤ 1 + games.countP (·.restarted) :=
  Nat.add_le_add_left ((List.take_sublist _ _).countP_le) 1

/-- A true line stays true when a frame of a later game follows. -/
theorem Final.IsTrue.concat {line : Final} (h : line.IsTrue games)
    (hlater : line.game < gameNumber (games ++ [game]) games.length) :
    line.IsTrue (games ++ [game]) := by
  obtain ⟨last, hlast, hover, hscore⟩ := h.ended
  have hlt := (List.getElem?_eq_some_iff.mp hlast).1
  refine ⟨⟨last, ?_, hover, hscore⟩, ?_, ?_⟩
  · rw [List.getElem?_append_left hlt, hlast]
  · rw [gameNumber_concat hlt, h.number_eq]
  · intro frame other hother hnumber
    rcases getElem?_concat_eq_some hother with ⟨hbefore, hold⟩ | ⟨rfl, rfl⟩
    · rw [gameNumber_concat hbefore] at hnumber
      exact h.greatest frame other hold hnumber
    · omega

end

namespace Session

variable {s next : Session} {games : List Game} {lines new : List Final}

/-! ### The counters -/

/-- **What the counters of a session say** about the games after its frames. -/
structure Counts (games : List Game) (s : Session) : Prop where
  frame_eq : s.frame = games.length
  games_eq : s.games = 1 + games.countP (·.restarted)
  ticks_eq : s.game.ticks = (games.rtakeWhile fun game => !game.restarted).length
  vertices_eq : s.vertices = (games.map fun game => (game.picture sheet.1).vertices.length).sum
  best_eq : Nat.max s.best s.game.score = (games.map (·.score)).foldl Nat.max 0
  /-- The best score counts that of a finished game. -/
  score_le_best : s.game.running = false → s.game.score ≤ s.best

/-- A session begins without frames. -/
theorem Counts.begin {game : Game} (h : game.Fresh) : Counts [] (.begin game) where
  frame_eq := rfl
  games_eq := rfl
  ticks_eq := h.ticks
  vertices_eq := rfl
  best_eq := by
    show Nat.max 0 game.score = 0
    rw [h.score]
    rfl
  score_le_best := by
    intro hover
    have hrunning : game.running = true := h.running
    rw [show game.running = false from hover] at hrunning
    cases hrunning

/-- The counters after a frame of a running game, whose score is at least the one before. -/
theorem Counts.concat_played (h : Counts games s) (hplayed : s.Played next)
    (hframe : next.frame = s.frame + 1)
    (hvertices : next.vertices = s.vertices + (next.game.picture sheet.1).vertices.length)
    (hbest : Nat.max next.best next.game.score = Nat.max s.best next.game.score)
    (hover : next.game.running = false → next.game.score ≤ next.best) :
    Counts (games ++ [next.game]) next where
  frame_eq := by rw [hframe, h.frame_eq, List.length_append, List.length_singleton]
  games_eq := by
    rw [hplayed.games_eq, h.games_eq, List.countP_append,
      List.countP_singleton, hplayed.restarted_eq]
    rfl
  ticks_eq := by
    rw [hplayed.ticks_eq, h.ticks_eq, List.rtakeWhile_concat_pos _ _ _
      (by simpa using hplayed.restarted_eq), List.length_append, List.length_singleton]
  vertices_eq := by
    rw [hvertices, h.vertices_eq, List.map_append, List.sum_append]
    simp
  best_eq := by
    rw [hbest, List.map_append, List.foldl_append, ← h.best_eq]
    have hle := hplayed.score_le
    show max s.best next.game.score = max (max s.best s.game.score) next.game.score
    omega
  score_le_best := hover

/-- **A frame keeps the counters right.** -/
theorem Counts.concat (h : Counts games s) (hframe : next.frame = s.frame + 1)
    (hvertices : next.vertices = s.vertices + (next.game.picture sheet.1).vertices.length)
    (hadvance : s.Advance next new) : Counts (games ++ [next.game]) next := by
  cases hadvance with
  | goesOn hplayed hrunning hreport hbest =>
    refine h.concat_played hplayed hframe hvertices (by rw [hbest]) ?_
    intro hover
    rw [hrunning] at hover
    cases hover
  | ends hplayed hover hreport hbest =>
    refine h.concat_played hplayed hframe hvertices ?_ ?_
    · show max next.best next.game.score = max s.best next.game.score
      have hmax : next.best = max s.best next.game.score := hbest
      omega
    · intro _
      rw [hbest]
      exact Nat.le_max_right _ _
  | restarts hover hfresh hevents hgames hbest =>
    have hrestarted : next.game.restarted = true := by rw [Game.restarted, hevents]; rfl
    constructor
    · rw [hframe, h.frame_eq, List.length_append, List.length_singleton]
    · rw [hgames, h.games_eq, List.countP_append, List.countP_singleton, hrestarted]
      rfl
    · rw [hfresh.ticks, List.rtakeWhile_concat_neg _ _ _ (by simpa using hrestarted)]
      rfl
    · rw [hvertices, h.vertices_eq, List.map_append, List.sum_append]
      simp
    · have hle := h.score_le_best hover
      rw [hbest, hfresh.score, List.map_append, List.foldl_append, ← h.best_eq]
      show max s.best 0 = max (max s.best s.game.score) next.game.score
      rw [hfresh.score]
      omega
    · intro hended
      rw [hfresh.running] at hended
      cases hended

/-! ### The lines -/

/-- **What the lines of finished games say** about the games after the frames of a session. -/
structure Lines (games : List Game) (lines : List Final) (s : Session) : Prop where
  /-- Every game but a running one has its line. -/
  games_eq : s.games = lines.length + s.game.running.toNat
  numbers_eq : lines.map (·.game) = List.range' 1 lines.length
  isTrue : ∀ line ∈ lines, line.IsTrue games
  mem_of_gameOver : ∀ frame game score, games[frame]? = some game →
    .gameOver score ∈ game.events → ⟨gameNumber games frame, frame, score⟩ ∈ lines
  /-- The score has not fallen within the last game. -/
  score_le : ∀ frame game, games[frame]? = some game → gameNumber games frame = s.games →
    game.score ≤ s.game.score

/-- A session begins without lines. -/
theorem Lines.begin {game : Game} (h : game.Fresh) : Lines [] [] (.begin game) where
  games_eq := by
    show 1 = 0 + game.running.toNat
    rw [h.running]
    rfl
  numbers_eq := rfl
  isTrue := by simp
  mem_of_gameOver := by simp
  score_le := by simp

/-- No line is about a later game than there are lines. -/
theorem Lines.game_le (h : Lines games lines s) {line : Final} (hline : line ∈ lines) :
    line.game ≤ lines.length := by
  have hmem : line.game ∈ lines.map (·.game) := List.mem_map_of_mem hline
  rw [h.numbers_eq, List.mem_range'_1] at hmem
  omega

/-- The lines so far stay true when a frame of a game without a line follows. -/
theorem Lines.isTrue_concat (h : Lines games lines s) {game : Game}
    (hnumber : lines.length < gameNumber (games ++ [game]) games.length) :
    ∀ line ∈ lines, line.IsTrue (games ++ [game]) := fun line hline =>
  (h.isTrue line hline).concat (Nat.lt_of_le_of_lt (h.game_le hline) hnumber)

/-- The lines of the games that ended before the last frame. -/
theorem Lines.mem_of_gameOver_concat (h : Lines games lines s) {game : Game} {frame : Nat}
    {x : Game} {score : Nat} (hx : (games ++ [game])[frame]? = some x)
    (hover : .gameOver score ∈ x.events) :
    ⟨gameNumber (games ++ [game]) frame, frame, score⟩ ∈ lines ∨
      frame = games.length ∧ x = game := by
  rcases getElem?_concat_eq_some hx with ⟨hlt, hold⟩ | hlast
  · rw [gameNumber_concat hlt]
    exact Or.inl (h.mem_of_gameOver frame x score hold hover)
  · exact Or.inr hlast

/-- The score after a frame of a running game is the greatest of its game. -/
theorem Lines.score_le_concat (h : Lines games lines s) (hplayed : s.Played next) {frame : Nat}
    {x : Game} (hx : (games ++ [next.game])[frame]? = some x)
    (hnumber : gameNumber (games ++ [next.game]) frame = next.games) :
    x.score ≤ next.game.score := by
  rcases getElem?_concat_eq_some hx with ⟨hlt, hold⟩ | ⟨-, rfl⟩
  · rw [gameNumber_concat hlt, hplayed.games_eq] at hnumber
    exact Nat.le_trans (h.score_le frame x hold hnumber) hplayed.score_le
  · exact Nat.le_refl _

/-- **A frame keeps the lines right.** -/
theorem Lines.concat (h : Lines games lines s) (hcounts : Counts games s)
    (hnext : Counts (games ++ [next.game]) next) (hadvance : s.Advance next new) :
    Lines (games ++ [next.game]) (lines ++ new) next := by
  have hgames := h.games_eq
  have hnumber : gameNumber (games ++ [next.game]) games.length = next.games := by
    rw [gameNumber_length, hnext.games_eq]
  cases hadvance with
  | goesOn hplayed hrunning hreport hbest =>
    rw [hplayed.running] at hgames
    have hsame := hplayed.games_eq
    rw [List.append_nil]
    refine ⟨?_, h.numbers_eq, h.isTrue_concat ?_, ?_, fun frame x => h.score_le_concat hplayed⟩
    · rw [hsame, hgames, hrunning]
    · rw [hnumber, hsame, hgames]
      exact Nat.lt_succ_self _
    · intro frame x score hx hover
      refine (h.mem_of_gameOver_concat hx hover).resolve_right ?_
      rintro ⟨-, rfl⟩
      exact hreport score hover
  | ends hplayed hover hreport hbest =>
    rw [hplayed.running] at hgames
    have hsame := hplayed.games_eq
    have hold : ∀ line ∈ lines, line.IsTrue (games ++ [next.game]) := by
      refine h.isTrue_concat ?_
      rw [hnumber, hsame, hgames]
      exact Nat.lt_succ_self _
    have hlast : (games ++ [next.game])[s.frame]? = some next.game := by
      rw [hcounts.frame_eq, List.getElem?_concat_length]
    refine ⟨?_, ?_, ?_, ?_, fun frame x => h.score_le_concat hplayed⟩
    · rw [hsame, hgames, hover, List.length_append]
      rfl
    · rw [List.map_append, h.numbers_eq, List.length_append, List.length_singleton,
        List.range'_1_concat, hgames, Nat.add_comm]
      rfl
    · intro line hline
      rcases List.mem_append.mp hline with hbefore | hnew
      · exact hold line hbefore
      · obtain rfl := List.mem_singleton.mp hnew
        refine ⟨⟨next.game, hlast, (hreport _).mpr rfl, rfl⟩, ?_, ?_⟩
        · show gameNumber (games ++ [next.game]) s.frame = s.games
          rw [hcounts.frame_eq, hnumber, hsame]
        · intro frame x hx hframe
          have hwithin := (List.getElem?_eq_some_iff.mp hx).1
          rw [List.length_append, List.length_singleton] at hwithin
          refine ⟨?_, h.score_le_concat hplayed hx (hframe.trans hsame.symm)⟩
          show frame ≤ s.frame
          rw [hcounts.frame_eq]
          omega
    · intro frame x score hx hended
      rcases h.mem_of_gameOver_concat hx hended with hmem | ⟨rfl, rfl⟩
      · exact List.mem_append_left _ hmem
      · rw [hnumber, hsame, (hreport score).mp hended, ← hcounts.frame_eq]
        exact List.mem_append_right _ (List.mem_singleton_self _)
  | restarts hover hfresh hevents hmore hbest =>
    rw [hover] at hgames
    rw [List.append_nil]
    refine ⟨?_, h.numbers_eq, h.isTrue_concat ?_, ?_, ?_⟩
    · rw [hmore, hgames, hfresh.running]
      rfl
    · rw [hnumber, hmore, hgames]
      exact Nat.lt_succ_self _
    · intro frame x score hx hended
      refine (h.mem_of_gameOver_concat hx hended).resolve_right ?_
      rintro ⟨-, rfl⟩
      rw [hevents] at hended
      cases List.mem_singleton.mp hended
    · intro frame x hx hframe
      rcases getElem?_concat_eq_some hx with ⟨hlt, -⟩ | ⟨-, rfl⟩
      · rw [gameNumber_concat hlt, hmore, hcounts.games_eq] at hframe
        have hle : gameNumber games frame ≤ _ := gameNumber_le
        omega
      · exact Nat.le_refl _

/-! ### The order of the frames -/

/-- **The pilot plays on.** A frame that ended a game leaves it ended, and the next one is a
restart. -/
def Turns (games : List Game) (s : Session) : Prop :=
  ∀ frame game score, games[frame]? = some game → .gameOver score ∈ game.events →
    (frame + 1 = games.length → s.game.running = false) ∧
    ∀ later, games[frame + 1]? = some later → later.restarted = true

/-- **A frame keeps the order.** -/
theorem Turns.concat (h : Turns games s) (hadvance : s.Advance next new) :
    Turns (games ++ [next.game]) next := by
  intro frame x score hx hover
  rcases getElem?_concat_eq_some hx with ⟨hlt, hold⟩ | ⟨rfl, rfl⟩
  · obtain ⟨hended, hlater⟩ := h frame x score hold hover
    constructor
    · intro hlast
      rw [List.length_append, List.length_singleton] at hlast
      omega
    · intro later hnext
      rcases getElem?_concat_eq_some hnext with ⟨-, hbefore⟩ | ⟨hlast, rfl⟩
      · exact hlater later hbefore
      · have hstopped := hended hlast
        cases hadvance with
        | goesOn hplayed _ _ _ =>
          rw [hplayed.running] at hstopped
          cases hstopped
        | ends hplayed _ _ _ =>
          rw [hplayed.running] at hstopped
          cases hstopped
        | restarts _ _ hevents _ _ =>
          rw [Game.restarted, hevents]
          rfl
  · constructor
    · intro _
      cases hadvance with
      | goesOn _ _ hreport _ => exact absurd hover (hreport score)
      | ends _ hended _ _ => exact hended
      | restarts _ _ hevents _ _ =>
        rw [hevents] at hover
        cases List.mem_singleton.mp hover
    · intro later hnext
      rw [List.getElem?_eq_none (by simp)] at hnext
      cases hnext

/-! ### All frames -/

/-- All that a session and its lines say about the games after its frames. -/
structure Tally (games : List Game) (lines : List Final) (s : Session) : Prop where
  counts : Counts games s
  lines : Lines games lines s
  turns : Turns games s

/-- A session begins with nothing to say. -/
theorem Tally.begin {game : Game} (h : game.Fresh) : Tally [] [] (.begin game) :=
  ⟨.begin h, .begin h, by simp [Turns]⟩

/-- **Any number of frames keeps the tally right.** The session goes on from a log, and the games
are those that the pilot plays. -/
theorem play_tally (frames : Nat) (log : List Notice) (hplayable : s.game.tuning.Playable)
    (h : Tally games (finals log.reverse) s) :
    ∃ last log' later, Session.play frames s log = .ok (last, log') ∧
      s.game.piloted frames s.now = .ok later ∧ later.length = frames ∧
      Tally (games ++ later) (finals log'.reverse) last := by
  -- each frame moves one game from those to come to those before
  induction frames generalizing s games log with
  | zero => exact ⟨s, log, [], rfl, rfl, rfl, by rwa [List.append_nil]⟩
  | succ frames ih =>
    obtain ⟨next, notices, hadvance, htuning⟩ := exists_advance hplayable
    obtain ⟨⟨dt, clocked, played, hclock, htick⟩, hnow, hframe, hvertices, hlines⟩ :=
      advance_eq_ok hadvance
    have hcounts := h.counts.concat hframe hvertices hlines
    have hnext : Tally (games ++ [next.game]) (finals (notices.reverse ++ log).reverse) next := by
      rw [List.reverse_append, List.reverse_reverse, finals_append]
      exact ⟨hcounts, h.lines.concat h.counts hcounts hlines, h.turns.concat hlines⟩
    obtain ⟨last, log', later, hplay, hpiloted, hlength, hlast⟩ := ih _ (htuning ▸ hplayable) hnext
    refine ⟨last, log', next.game :: later, (ok_bind hadvance _).trans hplay, ?_, by simp [hlength],
      by rwa [List.append_cons]⟩
    rw [hnow] at hpiloted
    exact (ok_bind hclock _).trans ((ok_bind htick _).trans (ok_bind hpiloted _))

end Session

/-! ### The summary -/

/-- **A truthful summary.** It and its log say of the games after all frames which score is the best
(zero without frames), how many games there were, how long the last run lasted and how many vertices
an average picture has; the lines of finished games are numbered from one without gap or repeat,
each is true and none is missing; and the frame after the end of a game begins another one. -/
structure Summary.Truthful (summary : Summary) (notices : List Notice) (games : List Game) :
    Prop where
  best_eq : summary.best = (games.map (·.score)).foldl Nat.max 0
  games_eq : summary.games = 1 + games.countP (·.restarted)
  ticks_eq : summary.ticks = (games.rtakeWhile fun game => !game.restarted).length
  average_eq : summary.average =
    (games.map fun game => (game.picture Session.sheet.1).vertices.length).sum /
      Nat.max games.length 1
  notices_eq : ∃ log, notices = log ++
    [.finalRun summary.ticks, .finished summary.games summary.best summary.average]
  numbers_eq : (finals notices).map (·.game) = List.range' 1 (finals notices).length
  isTrue : ∀ line ∈ finals notices, line.IsTrue games
  mem_of_gameOver : ∀ frame game score, games[frame]? = some game →
    .gameOver score ∈ game.events → ⟨gameNumber games frame, frame, score⟩ ∈ finals notices
  restarted : ∀ frame game later score, games[frame]? = some game →
    .gameOver score ∈ game.events → games[frame + 1]? = some later → later.restarted = true

/-- **The summary of a session is truthful**, for every seed and every number of frames: a session
has a summary, the pilot plays that many frames, and the summary and the log are true of the games
after them. -/
theorem runSession_truthful (seed : UInt64) (frames : Nat) :
    ∃ games summary notices, pilotedFrom seed frames = .ok games ∧ games.length = frames ∧
      runSession seed frames = .ok (summary, notices) ∧ summary.Truthful notices games := by
  obtain ⟨first, started, hstart, htuning⟩ := Game.exists_start Tuning.playable_standard seed
  have hplayable : first.tuning.Playable := htuning ▸ Tuning.playable_standard
  obtain ⟨last, log, games, hplay, hpiloted, hlength, hcounts, hlines, hturns⟩ :=
    Session.play_tally (s := .begin first) frames [] hplayable
      (.begin (Game.fresh_of_start hstart))
  rw [List.nil_append] at hcounts hlines hturns
  have hfinals : finals ([.starting, .headless seed frames] ++ Session.sheet.2 ++ started ++
      log.reverse ++ (last.summary frames).notices) = finals log.reverse := by
    have hsheet : finals Session.sheet.2 = [] := by decide +kernel
    rw [finals_append, finals_append, finals_append, finals_append, hsheet,
      Game.finals_start hstart]
    exact List.append_nil _
  refine ⟨games, last.summary frames, _, (ok_bind hstart _).trans hpiloted, hlength,
    (ok_bind hstart _).trans (ok_bind hplay _), ?_⟩
  constructor
  · exact hcounts.best_eq
  · exact hcounts.games_eq
  · exact hcounts.ticks_eq
  · show last.vertices / Nat.max frames 1 = _
    rw [hcounts.vertices_eq, hlength]
  · exact ⟨_, rfl⟩
  · rw [hfinals]
    exact hlines.numbers_eq
  · rw [hfinals]
    exact hlines.isTrue
  · rw [hfinals]
    exact hlines.mem_of_gameOver
  · intro frame game later score hgame hover hlater
    exact (hturns frame game score hgame hover).2 later hlater

end Platformer
