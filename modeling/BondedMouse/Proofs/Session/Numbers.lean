import BondedMouse.Proofs.Controller.Issued
import BondedMouse.Proofs.Session.Wish
import Mathlib.Data.List.Induction
import Mathlib.Data.List.Nodup

/-! # The numbers of windows

Windows are numbered in the order in which they are opened, and the numbers are reused
after 65536 windows.  A timeout names its window by the number alone; so the timeout of
an earlier window must not be taken for that of the present one.

The log of a run lists the windows that are opened and the calls that are made.  An
operation first makes calls that start nothing, then opens at most three windows, and
whatever it starts behind them carries the last number.  So between the start of a
window and the present the numbers have gone on by the windows that were opened since.
-/

namespace BondedMouse

/-! ## Consecutive numbers -/

namespace Window

/-- The number that comes so many windows later. -/
def later (window : Window) (count : Nat) : Window :=
  ⟨window.number + .ofNat count⟩

/-- The numbers of the next windows, so many of them. -/
def following (window : Window) (count : Nat) : List Window :=
  (List.range count).map fun place => window.later (place + 1)

@[simp] theorem later_zero (window : Window) : window.later 0 = window := by
  simp [later]

theorem next_eq (window : Window) : window.next = window.later 1 := rfl

@[simp] theorem later_later (window : Window) (count more : Nat) :
    (window.later count).later more = window.later (count + more) := by
  simp [later, UInt16.add_assoc]

/-- Numbers are told apart unless a full turn lies between them. -/
theorem later_inj {window : Window} {count other : Nat} :
    window.later count = window.later other ↔ count % 65536 = other % 65536 := by
  simp only [later, Window.mk.injEq, ← UInt16.toNat_inj, UInt16.toNat_add, UInt16.toNat_ofNat',
    Nat.reducePow, Nat.add_mod_mod]
  omega

@[simp] theorem length_following (window : Window) (count : Nat) :
    (window.following count).length = count := by
  simp [following]

theorem following_append (window : Window) (count more : Nat) :
    window.following (count + more) =
      window.following count ++ (window.later count).following more := by
  simp [following, List.range_add, Nat.add_assoc]

theorem nodup_following (window : Window) {count : Nat} (small : count ≤ 65536) :
    (window.following count).Nodup := by
  refine List.Nodup.map_on (fun place member other inside same => ?_) List.nodup_range
  have turn := later_inj.1 same
  rw [List.mem_range] at member inside
  omega

/-- A stretch of consecutive numbers is consecutive. -/
theorem following_of_isInfix {window : Window} {count : Nat} {windows : List Window}
    (stretch : windows <:+: window.following count) :
    ∃ earlier, windows = (window.later earlier).following windows.length := by
  obtain ⟨front, back, parts⟩ := stretch
  have total : count = front.length + windows.length + back.length := by
    have lengths := congrArg List.length parts
    simpa [Nat.add_assoc] using lengths.symm
  rw [total, following_append, following_append] at parts
  have middle := (List.append_inj parts (by simp)).1
  exact ⟨front.length, (List.append_inj middle (by simp)).2⟩

end Window

/-! ## Logs -/

section Logs

open Simulation

/-- The window that a request starts. -/
def RadioRequest.started? : RadioRequest → Option Window
  | .start _ window => some window
  | _ => none

def Simulation.Call.started? (call : Call) : Option Window :=
  call.request?.bind RadioRequest.started?

/-- What a log lists: windows by their numbers, and calls. -/
inductive LogEntry
  | opened (window : Window)
  | called (call : Call)

def LogEntry.window? : LogEntry → Option Window
  | .opened window => some window
  | .called _ => none

/-- The windows that a log lists. -/
def windowsOf (log : List LogEntry) : List Window :=
  log.filterMap LogEntry.window?

/-- The log of an operation: calls, then windows that are opened, then calls again. -/
def rowOf (early : List Call) (windows : List Window) (late : List Call) : List LogEntry :=
  early.map .called ++ windows.map .opened ++ late.map .called

@[simp] theorem windowsOf_append (log more : List LogEntry) :
    windowsOf (log ++ more) = windowsOf log ++ windowsOf more :=
  List.filterMap_append

@[simp] theorem windowsOf_called (calls : List Call) : windowsOf (calls.map .called) = [] := by
  simp [windowsOf, LogEntry.window?, Function.comp_def]

@[simp] theorem windowsOf_opened (windows : List Window) :
    windowsOf (windows.map .opened) = windows := by
  simp [windowsOf, LogEntry.window?, Function.comp_def]

/-- A log that begins with one window in force and ends with another opens the next windows in
their order, and between a start and the end of the log the number goes on by the windows that are
opened there. -/
structure Numbered (first present : Window) (log : List LogEntry) : Prop where
  consecutive : windowsOf log = first.following (windowsOf log).length
  reached : present = first.later (windowsOf log).length
  starts : ∀ before call after window, log = before ++ .called call :: after →
    call.started? = some window → present = window.later (windowsOf after).length

namespace Numbered

variable {first middle present : Window} {log more : List LogEntry}

theorem nil (window : Window) : Numbered window window [] where
  consecutive := rfl
  reached := window.later_zero.symm
  starts := by simp

theorem append (numbered : Numbered first middle log) (continued : Numbered middle present more) :
    Numbered first present (log ++ more) where
  consecutive := by
    rw [windowsOf_append, List.length_append, Window.following_append, ← numbered.reached,
      ← numbered.consecutive, ← continued.consecutive]
  reached := by
    rw [windowsOf_append, List.length_append, ← Window.later_later, ← numbered.reached]
    exact continued.reached
  starts := by
    intro before call after window parts started
    -- The start is in one of the two logs; behind one in the first stands all of the second.
    obtain ⟨front, rfl, behind⟩ | ⟨rest, rfl, behind⟩ := List.append_eq_append_iff.1 parts
    · exact continued.starts _ _ _ _ behind started
    · obtain ⟨rfl, behind⟩ | ⟨rest, rfl, rfl⟩ := List.cons_eq_append_iff.1 behind
      · exact continued.starts [] _ _ _ behind.symm started
      · have here := numbered.starts _ _ _ _ rfl started
        rw [windowsOf_append, List.length_append, ← Window.later_later, ← here]
        exact continued.reached

/-- Calls open nothing; what they start has the number in force. -/
theorem of_calls {calls : List Call} {window : Window}
    (starts : ∀ call ∈ calls, ∀ started, call.started? = some started → started = window) :
    Numbered window window (calls.map .called) where
  consecutive := by rw [windowsOf_called]; rfl
  reached := by rw [windowsOf_called]; exact window.later_zero.symm
  starts := by
    intro before call after started parts found
    have member : LogEntry.called call ∈ calls.map .called := by simp [parts]
    obtain ⟨listed, inside, same⟩ := List.mem_map.1 member
    cases same
    have none : windowsOf before ++ windowsOf (.called call :: after) = [] := by
      rw [← windowsOf_append, ← parts, windowsOf_called]
    have behind : windowsOf after = [] := (List.append_eq_nil_iff.1 none).2
    rw [starts call inside started found, behind]
    exact window.later_zero.symm

theorem of_windows (window : Window) (count : Nat) :
    Numbered window (window.later count) ((window.following count).map .opened) where
  consecutive := by rw [windowsOf_opened, Window.length_following]
  reached := by rw [windowsOf_opened, Window.length_following]
  starts := by
    intro before call after started parts found
    have member : LogEntry.called call ∈ (window.following count).map .opened := by simp [parts]
    simp at member

end Numbered

/-! ## What an operation opens and starts -/

variable {ε : Type}

/-- An operation makes early calls, opens so many windows and makes late calls.  The early calls
start nothing, the late ones start what carries the last number, and the mode does not change
without a new window. -/
structure Accounts (device after : Device (Journaled ε)) (early : List Call) (count : Nat)
    (late : List Call) : Prop where
  calls : after.env.calls = device.env.calls ++ (early ++ late)
  unstarted : ∀ call ∈ early, call.started? = none
  few : count ≤ 3
  window : after.window = device.window.later count
  starts : ∀ call ∈ late, ∀ window, call.started? = some window → window = after.window
  mode : count = 0 → after.mode = device.mode

theorem Accounts.numbered {device after : Device (Journaled ε)} {early late : List Call}
    {count : Nat} (accounts : Accounts device after early count late) :
    Numbered device.window after.window
      (rowOf early (device.window.following count) late) := by
  have first : Numbered device.window device.window (early.map .called) :=
    .of_calls fun call member window started => by simp [accounts.unstarted call member] at started
  have opened := Numbered.of_windows device.window count
  rw [← accounts.window] at opened
  exact (first.append opened).append (.of_calls accounts.starts)

/-- There is an account of what lies between the two devices. -/
def Accounted (device after : Device (Journaled ε)) : Prop :=
  ∃ early count late, Accounts device after early count late

/-- Up to three windows were opened on the way to the described one. -/
def Counts (device described : Device ε) : Prop :=
  described.env = device.env ∧
    ∃ count, 0 < count ∧ count ≤ 3 ∧ described.window = device.window.later count

namespace Counts

theorem rest (device : Device ε) : Counts device device.forRest :=
  ⟨rfl, 1, by simp [Device.forRest, Device.counted, Window.next_eq]⟩

theorem pairing (device : Device ε) : Counts device device.forPairing :=
  ⟨rfl, 1, by simp [Device.forPairing, Device.counted, Window.next_eq]⟩

theorem peer (device : Device ε) (peer : PeerId) : Counts device (device.forPeer peer) :=
  ⟨rfl, 1, by simp [Device.forPeer, Device.counted, Window.next_eq]⟩

variable [RadioStack ε]

/-- A scan that turns into a pairing window takes two numbers. -/
theorem scan (device : Device ε) : Counts device device.forScan := by
  unfold Device.forScan
  dsimp only
  split
  · exact ⟨rfl, 2, by simp [Device.forPairing, Device.counted, Window.next_eq]⟩
  · exact ⟨rfl, 1, by simp [Device.counted, Window.next_eq]⟩

theorem counted_scan (device : Device ε) : Counts device device.counted.forScan := by
  unfold Device.forScan
  dsimp only
  split
  · exact ⟨rfl, 3, by simp [Device.forPairing, Device.counted, Window.next_eq]⟩
  · exact ⟨rfl, 2, by simp [Device.counted, Window.next_eq]⟩

theorem anyBonded (device : Device ε) : Counts device device.forAnyBonded := by
  unfold Device.forAnyBonded
  dsimp only
  split
  · exact ⟨rfl, 2, by simp [Device.forPairing, Device.counted, Window.next_eq]⟩
  · exact ⟨rfl, 1, by simp [Device.counted, Window.next_eq]⟩

theorem targets (device : Device ε) : Counts device device.forTargets := by
  unfold Device.forTargets
  dsimp only
  split
  · exact peer { device with sequence := device.sequence.closeScan.2 } _
  · exact scan { device with sequence := device.sequence.closeScan.2 }

theorem next (device : Device ε) : Counts device device.forNext := by
  unfold Device.forNext
  dsimp only
  split
  · exact peer { device with sequence := device.sequence.turn.2 } _
  · exact scan { device with sequence := device.sequence.turn.2 }
  · exact anyBonded { device with sequence := device.sequence.turn.2 }

theorem sequence (device : Device ε) : Counts device device.forSequence :=
  scan { device with sequence := .fresh }

end Counts

/-- A row of requests starts at most this window. -/
def StartsOnly (window : Window) (requests : List RadioRequest) : Prop :=
  ∀ request ∈ requests, ∀ started, request.started? = some started → started = window

def StartsNothing (requests : List RadioRequest) : Prop :=
  ∀ request ∈ requests, request.started? = none

theorem StartsNothing.only {requests : List RadioRequest} (nothing : StartsNothing requests)
    (window : Window) : StartsOnly window requests := by
  intro request member started found
  simp [nothing request member] at found

theorem startsNothing_stopRequests (device : Device ε) : StartsNothing device.stopRequests := by
  unfold Device.stopRequests StartsNothing
  split <;> simp [RadioRequest.started?]

theorem startsNothing_dropRequests (link : Link) : StartsNothing link.dropRequests := by
  unfold StartsNothing
  cases link <;> simp [Link.dropRequests, RadioRequest.started?]

theorem startsNothing_detectRequests (device : Device ε) (peer : PeerId) :
    StartsNothing (device.detectRequests peer) := by
  have drops := startsNothing_dropRequests device.link
  simpa [StartsNothing, Device.detectRequests, RadioRequest.started?] using drops

theorem startsOnly_openingRequests (device : Device ε) :
    StartsOnly device.window device.openingRequests := by
  have stops := (startsNothing_stopRequests device).only device.window
  have starts : StartsOnly device.window device.silenced.startRequests := by
    unfold Device.startRequests
    split
    · split <;> simp [StartsOnly, RadioRequest.started?, Device.silenced]
    · exact (startsNothing_dropRequests _).only _
  intro request member
  simp only [Device.openingRequests, List.append_assoc, List.mem_append] at member
  obtain stop | set | start := member
  · exact stops request stop
  · intro started found
    simp at set
    obtain rfl | rfl := set <;> cases found
  · exact starts request start

theorem startsOnly_reconcileRequests (device : Device ε) :
    StartsOnly device.window device.reconcileRequests := by
  unfold Device.reconcileRequests
  split
  · split <;> simp [StartsOnly, RadioRequest.started?]
  · simp [StartsOnly]

namespace Accounted

variable {device middle described after : Device (Journaled ε)} {requests more : List RadioRequest}

theorem refl (device : Device (Journaled ε)) : Accounted device device :=
  ⟨[], 0, [], by simp, by simp, by simp, by simp, by simp, fun _ => rfl⟩

/-- What a call starts, one of the requests does. -/
theorem started_of_allowed {calls : List Call}
    (allowed : ∀ request result, Call.radio request result ∈ calls → request ∈ requests)
    {call : Call} (member : call ∈ calls) {window : Window}
    (started : call.started? = some window) :
    ∃ request ∈ requests, request.started? = some window := by
  cases call with
  | radio request result => exact ⟨request, allowed request result member, started⟩
  | read | write | reclaim => cases started

/-- Calls beside the window in force. -/
theorem beside (makes : MakesOnly requests device.env after.env)
    (starts : StartsOnly device.window requests) (window : after.window = device.window)
    (mode : after.mode = device.mode) : Accounted device after := by
  obtain ⟨calls, appended, allowed⟩ := makes
  refine ⟨[], 0, calls, appended, by simp, by simp, by simpa using window, ?_, fun _ => mode⟩
  intro call member started found
  obtain ⟨request, listed, same⟩ := started_of_allowed allowed member found
  rw [window]
  exact starts request listed started same

/-- Calls to the store, beside the window in force. -/
theorem quiet (makes : MakesOnly [] device.env after.env) (window : after.window = device.window)
    (mode : after.mode = device.mode) : Accounted device after :=
  .beside makes (by simp [StartsOnly]) window mode

/-- Windows are opened behind calls that start nothing, and calls are made in the last of them. -/
theorem opened (before : MakesOnly requests device.env middle.env)
    (nothing : StartsNothing requests) (here : middle.window = device.window)
    (counts : Counts middle described) (behind : MakesOnly more described.env after.env)
    (starts : StartsOnly described.window more) (there : after.window = described.window) :
    Accounted device after := by
  obtain ⟨early, appended, allowed⟩ := before
  obtain ⟨late, appendedLate, allowedLate⟩ := behind
  obtain ⟨stays, count, opens, few, counted⟩ := counts
  refine ⟨early, count, late, ?_, ?_, few, ?_, ?_, fun none => by omega⟩
  · rw [appendedLate, stays, appended, List.append_assoc]
  · intro call member
    cases found : call.started? with
    | none => rfl
    | some window =>
      obtain ⟨request, listed, same⟩ := started_of_allowed allowed member found
      simp [nothing request listed] at same
  · rw [there, counted, here]
  · intro call member window found
    obtain ⟨request, listed, same⟩ := started_of_allowed allowedLate member found
    rw [there]
    exact starts request listed window same

/-- Calls beside the window may follow. -/
theorem then_beside (accounted : Accounted device middle)
    (makes : MakesOnly requests middle.env after.env) (starts : StartsOnly middle.window requests)
    (same : SameWindow middle after) : Accounted device after := by
  obtain ⟨early, count, late, accounts⟩ := accounted
  obtain ⟨calls, appended, allowed⟩ := makes
  refine ⟨early, count, late ++ calls, ?_, accounts.unstarted, accounts.few,
    same.window.trans accounts.window, ?_, fun none => same.mode.trans (accounts.mode none)⟩
  · rw [appended, accounts.calls]
    simp only [List.append_assoc]
  · intro call member started found
    rw [same.window]
    obtain first | behind := List.mem_append.1 member
    · exact accounts.starts call first started found
    · obtain ⟨request, listed, same⟩ := started_of_allowed allowed behind found
      exact starts request listed started same

/-- Changes beside the window and its mode may come before. -/
theorem of_beside (accounted : Accounted middle after) (stays : middle.env = device.env)
    (window : middle.window = device.window) (mode : middle.mode = device.mode) :
    Accounted device after := by
  obtain ⟨early, count, late, accounts⟩ := accounted
  refine ⟨early, count, late, ?_, accounts.unstarted, accounts.few, ?_, accounts.starts,
    fun none => (accounts.mode none).trans mode⟩
  · rw [← stays]
    exact accounts.calls
  · rw [← window]
    exact accounts.window

end Accounted

/-! ## Operations -/

section Operations

open Controller

variable [RadioStack ε] {device middle described : Device (Journaled ε)}
  {result : EStateM.Result Fault (Device (Journaled ε)) Unit} {requests : List RadioRequest}

/-- An operation that asks for a row of requests beside the window. -/
theorem Asks.accounted {target : Device (Journaled ε)} (asks : Asks requests device target result)
    (starts : StartsOnly device.window requests) (window : target.window = device.window)
    (mode : target.mode = device.mode) : Accounted device (final result) :=
  .beside (.of_asks asks (List.Subset.refl _)) starts (asks.sameWindow.window.trans window)
    (asks.sameWindow.mode.trans mode)

/-- A window that is described and put into force, behind calls that start nothing. -/
theorem putInForce_accounted (counts : Counts middle described)
    (before : MakesOnly requests device.env middle.env) (nothing : StartsNothing requests)
    (here : middle.window = device.window) :
    Accounted device (final (putInForce described)) := by
  have asks := putInForce_asks described
  exact .opened before nothing here counts (.of_asks asks (List.Subset.refl _))
    (startsOnly_openingRequests described) asks.sameWindow.window

theorem Closes.accounted (closes : Closes device result) : Accounted device (final result) := by
  have nothing := startsNothing_stopRequests device
  cases closes with
  | refused refuses =>
    exact .beside (.of_refuses refuses (List.Subset.refl _)) (nothing.only _) rfl rfl
  | turned answers =>
    exact putInForce_accounted (.targets _) (.of_answers answers (List.Subset.refl _)) nothing rfl

theorem Detects.accounted {peer : PeerId} (detects : Detects device peer result) :
    Accounted device (final result) := by
  have nothing := startsNothing_detectRequests device peer
  cases detects with
  | refused refuses =>
    exact .beside (.of_refuses refuses (List.Subset.refl _)) (nothing.only _) rfl rfl
  | noted answers more =>
    exact .beside (.of_answers answers (List.Subset.refl _)) (nothing.only _) rfl rfl
  | complete answers all =>
    exact putInForce_accounted (.targets _) (.of_answers answers (List.Subset.refl _)) nothing rfl

theorem dropLink_accounted (device : Device (Journaled ε)) :
    Accounted device (final (dropLink device)) :=
  (dropLink_asks device).accounted ((startsNothing_dropRequests _).only _) rfl rfl

theorem Receives.accounted {peer : Option PeerId} (receives : Receives device peer result) :
    Accounted device (final result) := by
  cases receives with
  | ignored idle => exact .refl device
  | paired mode | kept meant => exact .quiet (.refl [] _) rfl rfl
  | dropped advertises stranger => exact dropLink_accounted device
  | detected scans detects => exact detects.accounted

/-- A window that is described without any calls. -/
theorem Counts.accounted (counts : Counts device described) :
    Accounted device (final (putInForce described)) :=
  putInForce_accounted counts (.refl [] _) (by simp [StartsNothing]) rfl

theorem Expires.accounted (expires : Expires device result) : Accounted device (final result) := by
  cases expires with
  | ignored undirected closed => exact .quiet (.refl [] _) rfl rfl
  | rested mode =>
    exact .opened (.refl [] _) (by simp [StartsNothing]) rfl (.rest device.stopped) (.refl [] _)
      (by simp [StartsOnly]) rfl
  | scanned mode phase => exact (Counts.targets device.stopped).accounted.of_beside rfl rfl rfl
  | offered mode phase => exact (Counts.next device.stopped).accounted.of_beside rfl rfl rfl

theorem Rings.accounted {last : Device (Journaled ε)} (rings : Rings device last) :
    Accounted device last := by
  cases rings with
  | ignored quiet => exact .refl device
  | closed mode phase closes ok =>
    have accounted := closes.accounted
    rw [ok] at accounted
    exact accounted
  | failed mode phase closes error =>
    have accounted := closes.accounted
    rw [error] at accounted
    exact accounted.then_beside (.refl [] _) (by simp [StartsOnly]) ⟨rfl, rfl, rfl, rfl, rfl⟩

theorem onConnected_accounted (peer : Option PeerId) (handle : LinkHandle)
    (device : Device (Journaled ε)) : Accounted device (final (onConnected peer handle device)) := by
  by_cases down : device.link = .down
  · exact (onConnected_down peer handle down).accounted.of_beside rfl rfl rfl
  · rw [onConnected_linked peer handle down]
    exact .refl device

theorem onDisconnected_accounted (device : Device (Journaled ε)) :
    Accounted device (final (onDisconnected device)) := by
  rw [onDisconnected_apply]
  split
  · exact .refl device
  · exact .quiet (.refl [] _) rfl rfl
  · split
    · exact (Counts.pairing device.unlinked).accounted.of_beside rfl rfl rfl
    · exact (Counts.sequence device.unlinked).accounted.of_beside rfl rfl rfl

theorem onTimedOut_accounted (window : Window) (device : Device (Journaled ε)) :
    Accounted device (final (onTimedOut window device)) := by
  by_cases present : window = device.window
  · subst present
    exact (onTimedOut_expires device).accounted
  · rw [onTimedOut_stale present]
    exact .refl device

theorem setMode_accounted (mode : Mode) (target : Option PeerId) (device : Device (Journaled ε)) :
    Accounted device (final (setMode mode target device)) := by
  cases mode with
  | idle =>
    have asks := silence_asks device.forRest
    exact .opened (.refl [] _) (by simp [StartsNothing]) rfl (.rest device)
      (.of_asks asks (List.Subset.refl _)) ((startsNothing_stopRequests _).only _)
      asks.sameWindow.window
  | pairing => exact (Counts.pairing device).accounted
  | scan =>
    rw [setMode, openScan_apply]
    exact (Counts.scan device).accounted
  | anyBonded =>
    rw [setMode, openAnyBonded_apply]
    exact (Counts.anyBonded device).accounted
  | directed =>
    cases target with
    | some peer => exact (Counts.peer device peer).accounted
    | none =>
      show Accounted device (final (openScan device.counted))
      rw [openScan_apply]
      exact (Counts.counted_scan device).accounted

theorem onRequest_accounted (request : Request) (device : Device (Journaled ε)) :
    Accounted device (final (onRequest request device)) := by
  cases request with
  | moveCursor movement =>
    rw [onRequest_moveCursor]
    split
    · exact (ask_asks _ device).accounted (by simp [StartsOnly, RadioRequest.started?]) rfl rfl
    · exact .refl device
    · exact .refl device
  | pairingWindow => exact (Counts.pairing device).accounted
  | eraseBonds => exact .quiet (.refl [] _) rfl rfl
  | disconnect => exact dropLink_accounted device

variable [RecordStore ε]

omit [RadioStack ε] in
theorem saveRanking_accounted (device : Device (Journaled ε)) :
    Accounted device (final (saveRanking device)) :=
  .quiet (saveRanking_makes [] device)
    (saveRanking_saves device).sameWindow.window (saveRanking_saves device).sameWindow.mode

omit [RadioStack ε] in
theorem onBonded_accounted (peer : PeerId) (device : Device (Journaled ε)) :
    Accounted device (final (onBonded peer device)) := by
  rw [onBonded_apply]
  split
  · dsimp only
    split
    · exact (saveRanking_accounted _).of_beside rfl rfl rfl
    · exact .quiet (.refl [] _) rfl rfl
  · exact .refl device
  · exact .refl device

omit [RadioStack ε] in
theorem onStorageFull_accounted (device : Device (Journaled ε)) :
    Accounted device (final (onStorageFull device)) := by
  have reclaimed : MakesOnly [] device.env (RecordStore.reclaim device.env).2 :=
    ⟨_, rfl, by simp⟩
  simp only [onStorageFull]
  split <;> exact .quiet reclaimed rfl rfl

theorem onEvent_accounted (event : RadioEvent) (device : Device (Journaled ε)) :
    Accounted device (final (onEvent event device)) := by
  cases event with
  | connected peer handle => exact onConnected_accounted peer handle device
  | disconnected => exact onDisconnected_accounted device
  | bonded peer => exact onBonded_accounted peer device
  | timedOut window => exact onTimedOut_accounted window device
  | storageFull => exact onStorageFull_accounted device
  | bondsErased =>
    show Accounted device (final (startSequence device))
    rw [startSequence_apply]
    exact (Counts.sequence device).accounted

theorem tick_accounted (device : Device (Journaled ε)) :
    Accounted device (final (tick device)) := by
  cases recorded : device.fault with
  | some fault =>
    rw [tick_fault recorded]
    exact .quiet (.refl [] _) rfl rfl
  | none =>
    have reconciled : Accounted device (final (reconcile device)) :=
      (reconcile_asks device).accounted (startsOnly_reconcileRequests device) rfl rfl
    rw [tick_apply recorded]
    refine final_bind (Accounted device) reconciled fun middle first => ?_
    refine final_bind (Accounted device) ?_ fun erased rest => ?_
    · exact first.then_beside (eraseWhenDown_makes (List.mem_singleton_self _) middle)
        (by simp [StartsOnly, RadioRequest.started?]) (eraseWhenDown_sameWindow middle)
    · exact rest.then_beside (saveRanking_makes [] erased) (by simp [StartsOnly])
        (saveRanking_saves erased).sameWindow

theorem start_accounted (device : Device (Journaled ε)) :
    Accounted device (final (start device)) := by
  have read : MakesOnly [] device.env device.restored.pruned.env := by
    show MakesOnly [] device.env device.restored.env
    rw [device.env_restored]
    exact ⟨_, rfl, by simp⟩
  rw [start_apply]
  refine final_bind (Accounted device) ?_ fun opened accounted => ?_
  · exact putInForce_accounted (.sequence device.restored.pruned) read (by simp [StartsNothing]) rfl
  · exact accounted.then_beside (saveRanking_makes [] opened) (by simp [StartsOnly])
      (saveRanking_saves opened).sameWindow

theorem Session.perform_accounted {session : Session (Journaled ε)} (wired : session.Wired)
    (operation : Operation) :
    Accounted session.device (session.perform operation).2.device := by
  have controlled {program : ControlM (Journaled ε) Unit}
      (accounted : Accounted session.device (final (program session.device))) :
      Accounted session.device (session.control program).2.device := by
    rwa [Session.control_device]
  cases operation with
  | start => exact controlled (start_accounted _)
  | startSequence => exact controlled (onEvent_accounted .bondsErased _)
  | setMode mode target => exact controlled (setMode_accounted mode target _)
  | event event => exact controlled (onEvent_accounted event _)
  | request request => exact controlled (onRequest_accounted request _)
  | tick => exact controlled (tick_accounted _)
  | scanTimeout => exact (onScanTimer_rings session.device).accounted
  | timerTick => exact .quiet (.refl [] _) rfl rfl
  | timerStep =>
    have steps := Session.timerStep_steps wired
    show Accounted session.device session.timerStep.device
    generalize session.timerStep.device = after at steps
    cases steps with
    | quiet timers => exact .quiet (.refl [] _) rfl rfl
    | rung before after rung rings =>
      have accounted : Accounted session.device rung := rings.accounted.of_beside rfl rfl rfl
      exact accounted.then_beside (.refl [] _) (by simp [StartsOnly]) ⟨rfl, rfl, rfl, rfl, rfl⟩

end Operations

/-! ## Runs -/

section Runs

variable [RadioStack ε] [RecordStore ε]

/-- The log of a run, one row for each operation.  What changes the environment from outside opens
nothing and makes no calls. -/
inductive LoggedRun (started : Session (Journaled ε)) :
    List (Move (Journaled ε)) → List LogEntry → Prop
  | none : LoggedRun started [] []
  | operation {moves : List (Move (Journaled ε))} {log : List LogEntry} {early late : List Call}
      {count : Nat} (run : LoggedRun started moves log) (operation : Operation)
      (accounts : Accounts (started.after moves).device
        ((started.after moves).perform operation).2.device early count late) :
      LoggedRun started (moves ++ [.operation operation])
        (log ++ rowOf early ((started.after moves).device.window.following count) late)
  | outside {moves : List (Move (Journaled ε))} {log : List LogEntry}
      (run : LoggedRun started moves log) (env : Journaled ε) :
      LoggedRun started (moves ++ [.outside env]) log

theorem Session.logged {started : Session (Journaled ε)} (wired : started.Wired)
    (moves : List (Move (Journaled ε))) : ∃ log, LoggedRun started moves log := by
  induction moves using List.reverseRecOn with
  | nil => exact ⟨[], .none⟩
  | append_singleton moves move ih =>
    obtain ⟨log, run⟩ := ih
    cases move with
    | outside env => exact ⟨log, run.outside env⟩
    | operation operation =>
      obtain ⟨early, count, late, accounts⟩ :=
        Session.perform_accounted (wired.after moves) operation
      exact ⟨_, run.operation operation accounts⟩

theorem LoggedRun.numbered {started : Session (Journaled ε)} {moves : List (Move (Journaled ε))}
    {log : List LogEntry} (run : LoggedRun started moves log) :
    Numbered started.device.window (started.after moves).device.window log := by
  induction run with
  | none => exact .nil _
  | operation run operation accounts ih =>
    rw [Session.after_concat]
    exact ih.append accounts.numbered
  | outside run env ih =>
    rw [Session.after_concat]
    exact ih

/-- A timeout of a window that has been replaced since is without effect: if up to 65535 windows
were opened since the call that started it, the controller makes no call and stays as it is.  For
any 65536 windows that are opened in a row have different numbers. -/
theorem replaced_window_ends_unnoticed {ranking : Ranking} {env : Journaled ε} {reserved : Nat}
    {started : Session (Journaled ε)}
    (powered : Session.powerUp ranking env reserved = .ok started)
    (moves : List (Move (Journaled ε))) :
    let session := started.after moves
    (∃ log, LoggedRun started moves log) ∧
    ∀ log, LoggedRun started moves log →
      (∀ before call after window, log = before ++ .called call :: after →
        call.started? = some window →
          1 ≤ (windowsOf after).length → (windowsOf after).length ≤ 65535 →
            session.perform (.event (.timedOut window)) = (.ok (), session)) ∧
      ∀ windows, windows <:+: windowsOf log → windows.length ≤ 65536 → windows.Nodup := by
  intro session
  refine ⟨Session.logged (Session.powerUp_eq_ok powered).1 moves, fun log run => ⟨?_, ?_⟩⟩
  · intro before call after window parts found some few
    have present : session.device.window = window.later (windowsOf after).length :=
      run.numbered.starts before call after window parts found
    have stale : window ≠ session.device.window := by
      rw [present]
      intro same
      have turn := Window.later_inj.1 (window.later_zero.trans same)
      omega
    show session.control (Controller.onTimedOut window) = _
    rw [Session.control_apply, Controller.onTimedOut_stale stale]
  · intro windows stretch few
    rw [run.numbered.consecutive] at stretch
    obtain ⟨earlier, same⟩ := Window.following_of_isInfix stretch
    rw [same]
    exact Window.nodup_following _ few

end Runs

section Bench

/-- The user opens a pairing window while the device scans for its bonded peer. -/
def interruptedScan : List (Move (Journaled Platform)) :=
  [.operation .start, .operation (.request .pairingWindow)]

/-- The calls that open a window of a device whose registry has these peers. -/
def openingCalls (peers : List PeerId) (profile : Profile) (window : Window) : List Call :=
  [.radio (.whitelist peers) (.ok ()), .radio (.identities peers) (.ok ()),
    .radio (.start profile window) (.ok ())]

theorem interrupted_scan_ends_unnoticed :
    (benchSession.after interruptedScan).device.mode = .pairing ∧
    (benchSession.after interruptedScan).perform (.event (.timedOut ⟨1⟩)) =
      (.ok (), benchSession.after interruptedScan) := by
  have scans : Accounts benchSession.device (benchSession.perform .start).2.device
      [.read Ranking.Record.key (.ok none)] 1 (openingCalls [nearPeer] .scan ⟨1⟩) :=
    ⟨rfl, by decide, by decide, rfl, by decide, by decide⟩
  have pairs : Accounts (benchSession.after [.operation .start]).device
      ((benchSession.after [.operation .start]).perform (.request .pairingWindow)).2.device
      [] 1 (.radio .stop (.ok ()) :: openingCalls [] .pairing ⟨2⟩) :=
    ⟨rfl, by decide, by decide, rfl, by decide, by decide⟩
  have run := (LoggedRun.none.operation .start scans).operation (.request .pairingWindow) pairs
  have outcome := (replaced_window_ends_unnoticed (Session.powerUp_fresh _ _) interruptedScan).2 _ run
  -- Behind the start of the first window stands the row of the request.
  have stale := outcome.1
    (rowOf [.read Ranking.Record.key (.ok none)] [⟨1⟩]
      [.radio (.whitelist [nearPeer]) (.ok ()), .radio (.identities [nearPeer]) (.ok ())])
    (.radio (.start .scan ⟨1⟩) (.ok ()))
    (rowOf [] [⟨2⟩] (.radio .stop (.ok ()) :: openingCalls [] .pairing ⟨2⟩)) ⟨1⟩
  exact ⟨rfl, stale rfl rfl (by decide) (by decide)⟩

end Bench

end Logs

end BondedMouse
