import BondedMouse.Button.Debounce

/-! # Waveforms and presses

A pin that is pressed and released makes a waveform of low and high phases.  The task of
its button looks at the pin in every millisecond.  It is blind to the pin for the
debounce time behind each falling edge and behind each release, and it listens for the
release or for the deadline in between.  So a waveform whose phases end outside of the
blind times is decoded in full: each low phase longer than the debounce time is one
press, and nothing else is.

A poll is a chain of moves at one level and time, `Turns`; what a task makes of the
levels of one millisecond after the other is `Responds`, which knows nothing of boards
and channels.  The phases of a waveform are composed from there.
-/

namespace BondedMouse.ButtonTask

/-! ## One poll -/

/-- The moves of a task at one level and time, up to the state in which it waits, and the presses
that it sends on the way. -/
inductive Turns (low : Bool) (clock : Nat) : ButtonState → List PressLength → ButtonState → Prop
  | waits {state : ButtonState} (still : next? low clock state = none) :
      Turns low clock state [] state
  | moves {state middle last : ButtonState} {lengths : List PressLength}
      (quiet : ∀ length, state ≠ .sending length) (next : next? low clock state = some middle)
      (rest : Turns low clock middle lengths last) : Turns low clock state lengths last
  | sends {length : PressLength} {middle last : ButtonState} {lengths : List PressLength}
      (next : next? low clock (.sending length) = some middle)
      (rest : Turns low clock middle lengths last) :
      Turns low clock (.sending length) (length :: lengths) last

theorem Turns.still {low : Bool} {clock : Nat} {state last : ButtonState}
    {lengths : List PressLength} (turns : Turns low clock state lengths last) :
    next? low clock last = none := by
  induction turns with
  | waits still => exact still
  | moves quiet next rest ih => exact ih
  | sends next rest ih => exact ih

section Poll

variable {surroundings after : Surroundings} {task result : ButtonTask}

theorem poll_of_step (stepped : step? surroundings task = some (after, result)) :
    task.poll surroundings = result.poll after := by
  rw [poll]
  split
  · next halted => simp [halted] at stepped
  · next after' result' moved =>
    rw [stepped] at moved
    cases moved
    rfl

theorem poll_of_still
    (still : next? (surroundings.board.isLow task.pin) surroundings.board.clock task.state = none) :
    task.poll surroundings = (surroundings, task) := by
  have halted : step? surroundings task = none := by
    cases effected : task.effect? surroundings <;> simp [step?, effected, still]
  rw [poll]
  split
  · rfl
  · next moved => simp [halted] at moved

/-- A move that sends nothing leaves the channel, and all that the task sees of the board. -/
theorem effect?_of_quiet (surroundings : Surroundings)
    (quiet : ∀ length, task.state ≠ .sending length) :
    ∃ after, task.effect? surroundings = some after ∧ after.presses = surroundings.presses ∧
      after.board.clock = surroundings.board.clock ∧
      after.board.isLow task.pin = surroundings.board.isLow task.pin := by
  unfold effect?
  split
  · exact ⟨_, rfl, rfl, rfl, rfl⟩
  · next length sending => exact absurd sending (quiet length)
  · exact ⟨_, rfl, rfl, rfl, rfl⟩

/-- A poll makes the moves of its level and time, and sends their presses where there is room. -/
theorem poll_of_turns {low : Bool} {clock : Nat} {state last : ButtonState}
    {lengths : List PressLength} (turns : Turns low clock state lengths last)
    (current : task.state = state) (level : surroundings.board.isLow task.pin = low)
    (time : surroundings.board.clock = clock)
    (room : surroundings.presses.items.length + lengths.length ≤ 4) :
    (task.poll surroundings).2 = { task with state := last } ∧
    (task.poll surroundings).1.presses.items =
      surroundings.presses.items ++ lengths.map (Press.mk task.button) := by
  induction turns generalizing task surroundings with
  | @waits state still =>
    subst current level time
    rw [poll_of_still still]
    simp
  | @moves state middle last lengths quiet next rest ih =>
    subst current
    obtain ⟨after, effected, presses, sameTime, sameLevel⟩ := effect?_of_quiet surroundings quiet
    have stepped : step? surroundings task = some (after, { task with state := middle }) := by
      simp [step?, effected, level, time, next]
    rw [poll_of_step stepped, ← presses]
    exact ih rfl (sameLevel.trans level) (sameTime.trans time) (presses ▸ room)
  | @sends length middle last lengths next rest ih =>
    rw [List.length_cons] at room
    cases sent : surroundings.presses.send? ⟨task.button, length⟩ with
    | none =>
      have full := Channel.send?_eq_none_iff.1 sent
      omega
    | some presses =>
      have appended := Channel.send?_eq_some_iff.1 sent
      have stepped : step? surroundings task =
          some ({ surroundings with presses }, { task with state := middle }) := by
        simp [step?, effect?, current, sent, level, time, next]
      rw [poll_of_step stepped]
      have left : presses.items.length + lengths.length ≤ 4 := by
        rw [appended, List.length_append, List.length_singleton]
        omega
      have polled : { task with state := middle }.state = middle := rfl
      obtain ⟨ends, holds⟩ := @ih { surroundings with presses } _ polled level time left
      refine ⟨ends, ?_⟩
      rw [holds]
      simp [appended]

end Poll

/-! ## Polls in a row -/

/-- Polls a task once in each of the surroundings: the presses that it sends, and the task
behind. -/
def watch : ButtonTask → List Surroundings → List Press × ButtonTask
  | task, [] => ([], task)
  | task, view :: views =>
    let (after, polled) := task.poll view
    let (presses, last) := polled.watch views
    (after.presses.items.drop view.presses.items.length ++ presses, last)

/-- A task is polled while its pin has these levels, one for each millisecond from a time on.  In
each millisecond it is polled at least once, and finds room for a press. -/
inductive Shows (pin : Nat) : Nat → List Bool → List Surroundings → Prop
  | nothing {clock : Nat} : Shows pin clock [] []
  | poll {clock : Nat} {low : Bool} {levels : List Bool} {view : Surroundings}
      {views : List Surroundings} (time : view.board.clock = clock)
      (level : view.board.isLow pin = low) (room : view.presses.items.length < 4)
      (rest : Shows pin (clock + 1) levels views) : Shows pin clock (low :: levels) (view :: views)
  /-- A poll with another one behind it in the same millisecond. -/
  | early {clock : Nat} {low : Bool} {levels : List Bool} {view : Surroundings}
      {views : List Surroundings} (time : view.board.clock = clock)
      (level : view.board.isLow pin = low) (room : view.presses.items.length < 4)
      (rest : Shows pin clock (low :: levels) views) :
      Shows pin clock (low :: levels) (view :: views)

/-- What a task in a state makes of the levels of one millisecond after the other: the presses that
it sends, and the state in which it waits behind the last of them. -/
inductive Responds : Nat → List Bool → ButtonState → List PressLength → ButtonState → Prop
  | done {clock : Nat} {state : ButtonState} : Responds clock [] state [] state
  | next {clock : Nat} {low : Bool} {levels : List Bool} {state middle last : ButtonState}
      {lengths more : List PressLength} (turns : Turns low clock state lengths middle)
      (single : lengths.length ≤ 1) (rest : Responds (clock + 1) levels middle more last) :
      Responds clock (low :: levels) state (lengths ++ more) last

theorem poll_eq_of_turns {low : Bool} {clock : Nat} {state last : ButtonState}
    {lengths : List PressLength} {view : Surroundings} {task : ButtonTask}
    (turns : Turns low clock state lengths last) (single : lengths.length ≤ 1)
    (current : task.state = state) (level : view.board.isLow task.pin = low)
    (time : view.board.clock = clock) (room : view.presses.items.length < 4) :
    (task.poll view).2 = { task with state := last } ∧
    (task.poll view).1.presses.items.drop view.presses.items.length =
      lengths.map (Press.mk task.button) := by
  obtain ⟨ends, holds⟩ := poll_of_turns turns current level time (by omega)
  exact ⟨ends, by rw [holds, List.drop_left]⟩

theorem watch_of_responds {clock : Nat} {levels : List Bool} {state last : ButtonState}
    {lengths : List PressLength} {views : List Surroundings} {task : ButtonTask}
    (shows : Shows task.pin clock levels views) (current : task.state = state)
    (responds : Responds clock levels state lengths last) :
    task.watch views = (lengths.map (Press.mk task.button), { task with state := last }) := by
  generalize pinned : task.pin = pin at shows
  induction shows generalizing task state lengths with
  | nothing =>
    cases responds
    subst current pinned
    rfl
  | @poll clock low levels view views time level room rest ih =>
    cases responds with
    | @next _ _ _ _ middle _ first more turns single others =>
      obtain ⟨ends, sent⟩ := poll_eq_of_turns turns single current (pinned ▸ level) time room
      have polled : ({ task with state := middle } : ButtonTask).pin = pin := pinned
      have behind := ih rfl others polled
      simp only [watch, ends, sent, behind, List.map_append]
  | @early clock low levels view views time level room rest ih =>
    cases responds with
    | @next _ _ _ _ middle _ first more turns single others =>
      obtain ⟨ends, sent⟩ := poll_eq_of_turns turns single current (pinned ▸ level) time room
      -- The second poll in a millisecond finds the task waiting.
      have again : Responds clock (low :: levels) middle ([] ++ more) last :=
        .next (.waits turns.still) (Nat.zero_le _) others
      have polled : ({ task with state := middle } : ButtonTask).pin = pin := pinned
      have behind := ih rfl again polled
      simp only [watch, ends, sent, behind, List.map_append, List.nil_append]

namespace Responds

variable {clock duration deadline : Nat} {low : Bool} {levels others : List Bool}
  {state middle last : ButtonState} {lengths more : List PressLength}

theorem append (first : Responds clock levels state lengths middle)
    (rest : Responds (clock + levels.length) others middle more last) :
    Responds clock (levels ++ others) state (lengths ++ more) last := by
  induction first with
  | done => exact rest
  | next turns single _ ih =>
    rw [List.append_assoc]
    refine .next turns single (ih ?_)
    rwa [List.length_cons, Nat.add_comm _ 1, ← Nat.add_assoc] at rest

/-- A task that has nothing to do waits. -/
theorem still (waits : ∀ time, clock ≤ time → time < clock + duration → next? low time state = none) :
    Responds clock (List.replicate duration low) state [] state := by
  induction duration generalizing clock with
  | zero => exact .done
  | succ duration ih =>
    have now : Turns low clock state [] state := .waits (waits clock (Nat.le_refl _) (by omega))
    exact .next now (Nat.zero_le _) (ih fun time behind before => waits time (by omega) (by omega))

/-- A task that turns at once, and then waits. -/
theorem atOnce (turns : Turns low clock state lengths last) (single : lengths.length ≤ 1)
    (some : 0 < duration)
    (behind : ∀ time, clock < time → time < clock + duration → next? low time last = none) :
    Responds clock (List.replicate duration low) state lengths last := by
  obtain ⟨rest, rfl⟩ := Nat.exists_eq_succ_of_ne_zero (Nat.ne_of_gt some)
  rw [List.replicate_succ, ← List.append_nil lengths]
  exact .next turns single (.still fun time late inside => behind time (by omega) (by omega))

/-- A task that waits up to a time turns there, and then waits again. -/
theorem turn (turns : Turns low deadline state lengths last) (single : lengths.length ≤ 1)
    (start : clock ≤ deadline) (finish : deadline < clock + duration)
    (before : ∀ time < deadline, next? low time state = none)
    (behind : ∀ time, deadline < time → time < clock + duration → next? low time last = none) :
    Responds clock (List.replicate duration low) state lengths last := by
  obtain ⟨wait, rfl⟩ := Nat.exists_eq_add_of_le start
  obtain ⟨rest, rfl⟩ : ∃ rest, duration = wait + rest := ⟨duration - wait, by omega⟩
  have waits : Responds clock (List.replicate wait low) state [] state :=
    .still fun time _ early => before time early
  have turned : Responds (clock + wait) (List.replicate rest low) state lengths last :=
    atOnce turns single (by omega) fun time late inside => behind time late (by omega)
  rw [← List.replicate_append_replicate]
  exact waits.append (by rwa [List.length_replicate])

end Responds

/-! ## Phases -/

section Phases

variable {clock duration deadline : Nat}

theorem next?_settling_early {low : Bool} (early : clock < deadline) :
    next? low clock (.settling deadline) = none :=
  if_neg (Nat.not_le.2 early)

theorem next?_resting_early {low : Bool} (early : clock < deadline) :
    next? low clock (.resting deadline) = none :=
  if_neg (Nat.not_le.2 early)

theorem next?_measuring_early (early : clock < deadline) :
    next? true clock (.measuring true deadline) = none :=
  if_neg (Nat.not_le.2 early)

theorem debounce_pos : 0 < debounce := by decide

theorem debounce_lt_longPress : debounce < longPress := by decide

theorem falling_low (clock : Nat) :
    Turns true clock (.falling true) [] (.settling (clock + debounce)) := by
  have fallen : next? true clock (.falling true) = some (.settling (clock + debounce)) := rfl
  exact .moves nofun fallen (.waits (next?_settling_early (Nat.lt_add_of_pos_right debounce_pos)))

/-- The button is still held when the contact has settled. -/
theorem settling_low (clock : Nat) :
    Turns true clock (.settling clock) [] (.measuring true (clock + (longPress - debounce))) := by
  have settled : next? true clock (.settling clock) =
      some (.measuring false (clock + (longPress - debounce))) := by simp [next?]
  have seen : next? true clock (.measuring false (clock + (longPress - debounce))) =
      some (.measuring true (clock + (longPress - debounce))) := rfl
  have ahead : clock < clock + (longPress - debounce) :=
    Nat.lt_add_of_pos_right (Nat.sub_pos_of_lt debounce_lt_longPress)
  exact .moves (by simp) settled (.moves (by simp) seen (.waits (next?_measuring_early ahead)))

/-- The button is still held at the deadline of a long press. -/
theorem measuring_low (clock : Nat) :
    Turns true clock (.measuring true clock) [.long] (.releasing true) := by
  have expired : next? true clock (.measuring true clock) = some (.sending .long) := by simp [next?]
  have sent : next? true clock (.sending .long) = some (.releasing false) := rfl
  have seen : next? true clock (.releasing false) = some (.releasing true) := rfl
  exact .moves (by simp) expired (.sends sent (.moves (by simp) seen (.waits rfl)))

theorem falling_high (clock : Nat) : Turns false clock (.falling false) [] (.falling true) := by
  have seen : next? false clock (.falling false) = some (.falling true) := rfl
  exact .moves nofun seen (.waits rfl)

/-- The low phase was over before the contact had settled. -/
theorem settling_high (clock : Nat) : Turns false clock (.settling clock) [] (.falling true) := by
  have settled : next? false clock (.settling clock) = some (.falling false) := by simp [next?]
  exact .moves (by simp) settled (falling_high clock)

/-- The release is seen before the deadline is looked at. -/
theorem measuring_high (clock deadline : Nat) :
    Turns false clock (.measuring true deadline) [.short] (.resting (clock + debounce)) := by
  have released : next? false clock (.measuring true deadline) = some (.sending .short) := rfl
  have sent : next? false clock (.sending .short) = some (.resting (clock + debounce)) := rfl
  have ahead : clock < clock + debounce := Nat.lt_add_of_pos_right debounce_pos
  exact .moves nofun released (.sends sent (.waits (next?_resting_early ahead)))

theorem releasing_high (clock : Nat) :
    Turns false clock (.releasing true) [] (.resting (clock + debounce)) := by
  have released : next? false clock (.releasing true) = some (.resting (clock + debounce)) := rfl
  have ahead : clock < clock + debounce := Nat.lt_add_of_pos_right debounce_pos
  exact .moves nofun released (.waits (next?_resting_early ahead))

theorem resting_high (clock : Nat) : Turns false clock (.resting clock) [] (.falling true) := by
  have rested : next? false clock (.resting clock) = some (.falling false) := by simp [next?]
  exact .moves (by simp) rested (falling_high clock)

theorem unstarted_high (clock : Nat) : Turns false clock .unstarted [] (.falling true) := by
  have started : next? false clock .unstarted = some (.falling false) := rfl
  exact .moves nofun started (falling_high clock)

namespace Responds

/-! ### High phases -/

/-- While the button is up, a task that awaits a press waits. -/
theorem idle : Responds clock (List.replicate duration false) (.falling true) [] (.falling true) :=
  .still fun _ _ _ => rfl

theorem started (some : 0 < duration) :
    Responds clock (List.replicate duration false) .unstarted [] (.falling true) :=
  .atOnce (unstarted_high clock) (Nat.zero_le _) some fun _ _ _ => rfl

/-- A contact that settles within a high phase was no press. -/
theorem settledHigh (start : clock ≤ deadline) (finish : deadline < clock + duration) :
    Responds clock (List.replicate duration false) (.settling deadline) [] (.falling true) :=
  .turn (settling_high deadline) (Nat.zero_le _) start finish
    (fun _ early => next?_settling_early early) fun _ _ _ => rfl

theorem rested (start : clock ≤ deadline) (finish : deadline < clock + duration) :
    Responds clock (List.replicate duration false) (.resting deadline) [] (.falling true) :=
  .turn (resting_high deadline) (Nat.zero_le _) start finish
    (fun _ early => next?_resting_early early) fun _ _ _ => rfl

/-- A release is followed by a blind time, which a high phase outlasts. -/
theorem released {state : ButtonState} {lengths : List PressLength}
    (turns : Turns false clock state lengths (.resting (clock + debounce)))
    (single : lengths.length ≤ 1) (outlasts : debounce < duration) :
    Responds clock (List.replicate duration false) state lengths (.falling true) := by
  obtain ⟨rest, rfl⟩ := Nat.exists_eq_succ_of_ne_zero (Nat.ne_zero_of_lt outlasts)
  have positive := debounce_pos
  rw [List.replicate_succ, ← List.append_nil lengths]
  exact .next turns single (rested (by omega) (by omega))

/-! ### Low phases -/

/-- Within the blind time, nothing is known of a low phase. -/
theorem pressed (some : 0 < duration) (brief : duration ≤ debounce) :
    Responds clock (List.replicate duration true) (.falling true) []
      (.settling (clock + debounce)) :=
  .atOnce (falling_low clock) (Nat.zero_le _) some
    fun _ _ inside => next?_settling_early (by omega)

/-- A low phase that outlasts the blind time is being measured, up to the deadline. -/
theorem measured (lasting : debounce < duration) (short : duration ≤ longPress) :
    Responds clock (List.replicate duration true) (.falling true) []
      (.measuring true (clock + longPress)) := by
  obtain ⟨more, rfl⟩ := Nat.exists_eq_add_of_lt lasting
  have settled : Responds (clock + debounce) (List.replicate (more + 1) true)
      (.settling (clock + debounce)) [] (.measuring true (clock + longPress)) := by
    have deadline : clock + debounce + (longPress - debounce) = clock + longPress := by omega
    rw [← deadline]
    exact .atOnce (settling_low _) (Nat.zero_le _) (Nat.succ_pos _)
      fun _ _ inside => next?_measuring_early (by omega)
  rw [Nat.add_assoc, ← List.replicate_append_replicate]
  exact (pressed debounce_pos (Nat.le_refl _)).append (by rwa [List.length_replicate])

/-- A low phase that outlasts the deadline is a long press from there on. -/
theorem held (long : longPress < duration) :
    Responds clock (List.replicate duration true) (.falling true) [.long] (.releasing true) := by
  obtain ⟨more, rfl⟩ := Nat.exists_eq_add_of_lt long
  have expired : Responds (clock + longPress) (List.replicate (more + 1) true)
      (.measuring true (clock + longPress)) [.long] (.releasing true) :=
    .atOnce (measuring_low _) (Nat.le_refl _) (Nat.succ_pos _) fun _ _ _ => rfl
  rw [Nat.add_assoc, ← List.replicate_append_replicate]
  exact (measured debounce_lt_longPress (Nat.le_refl _)).append (by rwa [List.length_replicate])

end Responds

end Phases

/-! ## Waveforms -/

/-- A low phase and the high one behind it, in milliseconds. -/
structure Swing where
  low : Nat
  high : Nat

/-- The levels of a pin that starts high: the first phase, the swings behind it, and a low phase that
is still going on, or has not begun. -/
structure Waveform where
  first : Nat
  swings : List Swing
  unfinished : Nat

/-- What a low phase means that is over. -/
def press? (low : Nat) : Option PressLength :=
  if debounce < low then some (if longPress < low then .long else .short) else none

namespace Swing

def levels (swing : Swing) : List Bool :=
  List.replicate swing.low true ++ List.replicate swing.high false

/-- The high phase outlasts the blind time, and the low phase ends apart from both deadlines. -/
def Clean (swing : Swing) : Prop :=
  debounce < swing.high ∧ swing.low ≠ debounce ∧ swing.low ≠ longPress

end Swing

namespace Waveform

/-- The levels, one for each millisecond. -/
def levels (wave : Waveform) : List Bool :=
  List.replicate wave.first false ++ wave.swings.flatMap Swing.levels ++
    List.replicate wave.unfinished true

def Clean (wave : Waveform) : Prop :=
  debounce < wave.first ∧ ∀ swing ∈ wave.swings, swing.Clean

/-- The presses of a waveform: one for each low phase that is longer than the debounce time, and one
for a low phase that is long already. -/
def lengths (wave : Waveform) : List PressLength :=
  wave.swings.filterMap (press? ·.low) ++ if longPress < wave.unfinished then [.long] else []

end Waveform

theorem press?_eq_none {low : Nat} (brief : low ≤ debounce) : press? low = none :=
  if_neg (Nat.not_lt.2 brief)

theorem press?_eq_short {low : Nat} (lasting : debounce < low) (short : low ≤ longPress) :
    press? low = some .short := by
  rw [press?, if_pos lasting, if_neg (Nat.not_lt.2 short)]

theorem press?_eq_long {low : Nat} (long : longPress < low) : press? low = some .long := by
  rw [press?, if_pos (Nat.lt_trans debounce_lt_longPress long), if_pos long]

namespace Responds

variable {clock : Nat}

/-- A low phase and the high one behind it, where the task waits in between. -/
theorem lowHigh {low high : Nat} {state middle last : ButtonState} {lengths more : List PressLength}
    (down : Responds clock (List.replicate low true) state lengths middle)
    (up : Responds (clock + low) (List.replicate high false) middle more last) :
    Responds clock (Swing.mk low high).levels state (lengths ++ more) last :=
  down.append (by rwa [List.length_replicate])

/-- A task that awaits a press makes one of each low phase that is long enough, and awaits the
next one behind the high phase. -/
theorem swing {swing : Swing} (clean : swing.Clean) :
    Responds clock swing.levels (.falling true) (press? swing.low).toList (.falling true) := by
  obtain ⟨low, high⟩ := swing
  obtain ⟨outlasts, apart, apart'⟩ : debounce < high ∧ low ≠ debounce ∧ low ≠ longPress := clean
  change Responds clock _ _ (press? low).toList _
  rcases Nat.lt_or_gt_of_ne apart with brief | lasting
  · rw [press?_eq_none (Nat.le_of_lt brief)]
    rcases Nat.eq_zero_or_pos low with rfl | some
    · have nothing : Responds clock (List.replicate 0 true) (.falling true) [] (.falling true) := .done
      exact lowHigh nothing idle
    · exact lowHigh (pressed some (Nat.le_of_lt brief)) (settledHigh (by omega) (by omega))
  rcases Nat.lt_or_gt_of_ne apart' with short | long
  · rw [press?_eq_short lasting (Nat.le_of_lt short)]
    exact lowHigh (measured lasting (Nat.le_of_lt short))
      (released (measuring_high _ _) (Nat.le_refl _) outlasts)
  · rw [press?_eq_long long]
    exact lowHigh (held long) (released (releasing_high _) (Nat.zero_le _) outlasts)

theorem swings {swings : List Swing} (clean : ∀ swing ∈ swings, swing.Clean) :
    Responds clock (swings.flatMap Swing.levels) (.falling true)
      (swings.filterMap (press? ·.low)) (.falling true) := by
  induction swings generalizing clock with
  | nil => exact .done
  | cons first swings ih =>
    obtain ⟨cleanFirst, cleanOthers⟩ := List.forall_mem_cons.1 clean
    have whole : Responds clock (first.levels ++ swings.flatMap Swing.levels) (.falling true)
        ((press? first.low).toList ++ swings.filterMap (press? ·.low)) (.falling true) :=
      (swing cleanFirst).append (ih cleanOthers)
    rw [List.flatMap_cons]
    cases pressed : press? first.low <;> simpa [List.filterMap_cons, pressed] using whole

/-- Of a low phase that still goes on, the task reports no more than that it is long. -/
theorem unfinished (duration : Nat) :
    ∃ last, Responds clock (List.replicate duration true) (.falling true)
      (if longPress < duration then [.long] else []) last := by
  by_cases long : longPress < duration
  · exact ⟨_, by rw [if_pos long]; exact held long⟩
  rw [if_neg long]
  by_cases lasting : debounce < duration
  · exact ⟨_, measured lasting (Nat.not_lt.1 long)⟩
  rcases Nat.eq_zero_or_pos duration with rfl | some
  · exact ⟨_, .done⟩
  · exact ⟨_, pressed some (Nat.not_lt.1 lasting)⟩

theorem waveform {wave : Waveform} (clean : wave.Clean) :
    ∃ last, Responds clock wave.levels .unstarted wave.lengths last := by
  obtain ⟨cleanFirst, cleanSwings⟩ := clean
  have first : Responds clock (List.replicate wave.first false) .unstarted [] (.falling true) :=
    started (Nat.zero_lt_of_lt cleanFirst)
  have finished := first.append (swings cleanSwings)
  obtain ⟨last, rest⟩ := unfinished wave.unfinished
  exact ⟨last, finished.append rest⟩

end Responds

/-- A task that is polled in each millisecond of a clean waveform, with room for its presses,
sends one press for each low phase that is longer than the debounce time, in their order and for
its button: a long one if the phase is longer than the time of a long press, a short one
otherwise.  For shorter phases it sends nothing. -/
theorem clean_waveform_is_decoded (button : Button) (pin clock : Nat) (wave : Waveform)
    (clean : wave.Clean) (views : List Surroundings) (shows : Shows pin clock wave.levels views) :
    ((ButtonTask.new button pin).watch views).1 = wave.lengths.map (Press.mk button) := by
  obtain ⟨last, responds⟩ := Responds.waveform clean
  have fresh : (ButtonTask.new button pin).state = .unstarted := rfl
  have pinned : (ButtonTask.new button pin).pin = pin := rfl
  rw [watch_of_responds (pinned.symm ▸ shows) fresh responds]
  rfl

/-- One poll in each millisecond, of a board with nothing but the one pin, and an empty channel. -/
def onceEach (pin : Nat) : Nat → List Bool → List Surroundings
  | _, [] => []
  | clock, low :: levels =>
    ⟨{ Board.powerOff.setPin pin low with clock }, .empty⟩ :: onceEach pin (clock + 1) levels

theorem shows_onceEach (pin clock : Nat) (levels : List Bool) :
    Shows pin clock levels (onceEach pin clock levels) := by
  induction levels generalizing clock with
  | nil => exact .nothing
  | cons low levels ih =>
    refine .poll rfl ?_ (Nat.zero_lt_succ 3) (ih (clock + 1))
    cases low <;> simp [Board.isLow, Board.setPin, Board.powerOff]

/-- A glitch, the shortest of presses behind it, a long press, and a press that goes on. -/
theorem presses_are_decoded :
    ((ButtonTask.new .pair 3).watch
      (onceEach 3 7 (Waveform.mk 51 [⟨49, 51⟩, ⟨51, 60⟩, ⟨1001, 51⟩] 999).levels)).1 =
        [⟨.pair, .short⟩, ⟨.pair, .long⟩] := by
  have clean : (Waveform.mk 51 [⟨49, 51⟩, ⟨51, 60⟩, ⟨1001, 51⟩] 999).Clean := by
    simp [Waveform.Clean, Swing.Clean, debounce, longPress]
  exact clean_waveform_is_decoded .pair 3 7 _ clean _ (shows_onceEach 3 7 _)

end BondedMouse.ButtonTask
