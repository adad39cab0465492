import BondedMouse.Proofs.Firmware.Orders
import BondedMouse.Proofs.Radio.Moves

/-! # The controller and the advertiser in concord

Commands and reports cross between the controller and the advertiser.  What the
advertiser will come to do is its course, the last command that it was given; what the
controller will come to know of it are the reports in flight.  `Concord` ties the two to
the controller's flags, so that they agree once nothing is on its way.

One crossing they do not get over: a start that is posted while the end of its window
is in flight.  The controller then takes its window to be over, and the advertiser has a
command for it.  `overtaken` recognises such a start.
-/

namespace BondedMouse

open Firmware

variable {device after : Device Platform} {task result : Advertiser} {next : RadioUnit}
  {crossed : Bool}

/-! ## What is on its way -/

/-- The reports of the advertiser that the controller has still to handle. -/
def flight (unit : RadioUnit) (task : Advertiser) : List RadioEvent :=
  unit.reports ++ task.unsent

/-- The last command that the advertiser was given, unless it has done with it. -/
def course (unit : RadioUnit) (task : Advertiser) : Option AdvertiserCommand :=
  unit.commands.items.getLast?.or task.command?

/-- The last command that waits is a start whose window has ended already. -/
def overtaken (unit : RadioUnit) (task : Advertiser) : Bool :=
  match unit.commands.items.getLast? with
  | some (.start _ window) => (flight unit task).any (·.ends window)
  | some .stop | none => false

/-- Whether the last start was overtaken, after a change of the unit: only a command that is
posted changes that. -/
def crossing (before unit : RadioUnit) (task : Advertiser) (crossed : Bool) : Bool :=
  if before.commands.items.length < unit.commands.items.length then overtaken unit task else crossed

theorem crossing_eq {before unit : RadioUnit}
    (fewer : unit.commands.items.length ≤ before.commands.items.length) :
    crossing before unit task crossed = crossed :=
  if_neg (Nat.not_lt.2 fewer)

section Posted

variable {before unit : RadioUnit} {commands : List AdvertiserCommand} {command : AdvertiserCommand}

theorem getLast?_posted (appended : unit.commands.items = before.commands.items ++ commands)
    (last : commands.getLast? = some command) : unit.commands.items.getLast? = some command := by
  rw [appended, List.getLast?_append, last]
  rfl

theorem crossing_posted (appended : unit.commands.items = before.commands.items ++ commands)
    (last : commands.getLast? = some command) :
    crossing before unit task crossed = overtaken unit task := by
  -- A command was posted, so the channel has grown.
  have some_posted : commands ≠ [] := by
    rintro rfl
    cases last
  apply if_pos
  rw [appended, List.length_append]
  exact Nat.lt_add_of_pos_right (List.length_pos_iff.2 some_posted)

theorem course_posted (appended : unit.commands.items = before.commands.items ++ commands)
    (last : commands.getLast? = some command) : course unit task = some command := by
  rw [course, getLast?_posted appended last]
  rfl

end Posted

/-- The controller and the advertiser, and whether the last start was overtaken. -/
structure Concord (device : Device Platform) (task : Advertiser) (crossed : Bool) : Prop where
  /-- The reports in flight lead from the controller's link to that of the advertiser. -/
  links : (flight device.env.1 task).foldlM RadioEvent.linkAfter? (decide (device.link ≠ .down)) =
    some task.linked
  runs : device.running = true →
    course device.env.1 task = some (.start device.profile device.window) ∨
      (flight device.env.1 task).any (·.ends device.window) = true
  told : ∀ profile window, course device.env.1 task = some (.start profile window) →
    device.running = true ∨ crossed = true
  late : crossed = true → device.running = true →
    (flight device.env.1 task).any (·.ends device.window) = true
  clear : crossed = false → device.running = true →
    (flight device.env.1 task).any (·.ends device.window) = true →
    ∀ profile window, course device.env.1 task ≠ some (.start profile window)

namespace Concord

/-! ## Operations of the controller -/

theorem orders (concord : Concord device task crossed) (orders : Orders device after) :
    Concord after task (crossing device.env.1 after.env.1 task crossed) := by
  obtain ⟨down, reports, commands, appended, obeys⟩ := orders
  have flies : flight after.env.1 task = flight device.env.1 task := by rw [flight, reports]; rfl
  have links : (flight after.env.1 task).foldlM RadioEvent.linkAfter?
      (decide (after.link ≠ .down)) = some task.linked := by
    rw [flies, ← concord.links]
    simp only [ne_eq, down]
  -- Without a command nothing changes but how the window is described, and only if none runs.
  cases last : commands.getLast? with
  | none =>
    rw [List.getLast?_eq_none_iff.1 last, List.append_nil] at appended
    rw [last] at obeys
    obtain ⟨running, described⟩ := obeys
    have heads : course after.env.1 task = course device.env.1 task := by
      rw [course, appended]
      rfl
    rw [crossing_eq (Nat.le_of_eq (congrArg List.length appended))]
    refine ⟨links, fun runs => ?_, ?_, fun late runs => ?_, fun clear runs => ?_⟩
    · obtain ⟨profile, window⟩ := described runs
      rw [heads, flies, profile, window]
      exact concord.runs (running.symm.trans runs)
    · rw [heads, running]
      exact concord.told
    · rw [flies, (described runs).2]
      exact concord.late late (running.symm.trans runs)
    · rw [flies, heads, (described runs).2]
      exact concord.clear clear (running.symm.trans runs)
  | some command =>
    have heads : course after.env.1 task = some command := course_posted appended last
    rw [last] at obeys
    rw [crossing_posted appended last, overtaken, getLast?_posted appended last]
    -- After a stop nothing is to run; after a start it depends on what is in flight.
    cases command with
    | stop =>
      have stopped : after.running = false := obeys
      refine ⟨links, fun runs => ?_, fun profile window told => ?_, nofun, fun _ runs => ?_⟩
      · simp [stopped] at runs
      · rw [heads] at told
        cases told
      · simp [stopped] at runs
    | start profile window =>
      obtain ⟨running, rfl, rfl⟩ := obeys
      refine ⟨links, fun _ => .inl heads, fun _ _ _ => .inl running, fun late _ => late, ?_⟩
      intro clear _ ended
      cases ended.symm.trans clear

/-! ## Moves of the advertiser -/

/-- One more report that fits. -/
theorem links_append (concord : Concord device task crossed) {event : RadioEvent} {linked : Bool}
    (fits : event.linkAfter? task.linked = some linked) :
    (flight device.env.1 task ++ [event]).foldlM RadioEvent.linkAfter?
      (decide (device.link ≠ .down)) = some linked := by
  rw [List.foldlM_append, concord.links]
  simpa using fits

/-- A move after which the same reports are in flight and the same start, if any, is to be
followed. -/
theorem keeps (concord : Concord device task crossed)
    (flies : flight next result = flight device.env.1 task)
    (heads : ∀ profile window, course next result = some (.start profile window) ↔
      course device.env.1 task = some (.start profile window))
    (linked : result.linked = task.linked) :
    Concord { device with env := (next, device.env.2) } result crossed where
  links := by
    rw [flies, linked]
    exact concord.links
  runs := by
    rw [heads, flies]
    exact concord.runs
  told := by
    intro profile window told
    exact concord.told profile window ((heads profile window).1 told)
  late := by
    rw [flies]
    exact concord.late
  clear := by
    rw [flies]
    intro clear runs ended profile window told
    exact concord.clear clear runs ended profile window ((heads profile window).1 told)

theorem moved (concord : Concord device task crossed) (moves : Moves device.env.1 task next result) :
    Concord { device with env := (next, device.env.2) } result crossed := by
  cases moves with
  | took waited events follows unsent linked =>
    refine concord.keeps ?_ (fun profile window => ?_) linked
    · rw [flight, flight, RadioUnit.reports, events, unsent]
      rfl
    · have heads : course next result = course device.env.1 task := by
        rw [course, course, waited, follows, List.getLast?_cons]
        cases next.commands.items.getLast? <;> rfl
      rw [heads]
  | turned commands events follows unsent linked =>
    refine concord.keeps ?_ (fun profile window => ?_) linked
    · rw [flight, flight, RadioUnit.reports, events, unsent]
      rfl
    · rw [course, course, commands]
      obtain same | ⟨stop, spent⟩ := follows
      · rw [same]
      · rw [stop, spent]
        cases device.env.1.commands.items.getLast? <;> simp
  | reported commands events report follows unsent sent linked =>
    refine concord.keeps ?_ (fun profile window => ?_) linked
    · simp [flight, RadioUnit.reports, events, unsent, sent, report]
    · rw [course, course, commands, follows]
  | @ended profile window event idle commands events ran spent sent unsent ends linked =>
    have flies : flight next result = flight device.env.1 task ++ [event] := by
      simp [flight, RadioUnit.reports, events, sent, unsent]
    have headed : course device.env.1 task = some (.start profile window) := by
      rw [course, idle, ran]
      rfl
    have heads : course next result = none := by
      rw [course, commands, idle, spent]
      rfl
    have told : ∀ other ended, course next result ≠ some (.start other ended) := by
      rw [heads]
      intro other ended start
      cases start
    have more : (flight device.env.1 task).any (·.ends device.window) = true →
        (flight next result).any (·.ends device.window) = true := by
      intro ended
      rw [flies, List.any_append, ended, Bool.true_or]
    refine ⟨?_, fun runs => .inr ?_, fun other ended start => absurd start (told other ended),
      fun late runs => more (concord.late late runs), fun _ _ _ => told⟩
    · rw [flies]
      exact concord.links_append linked
    -- What ended is the controller's window, or the end of that was in flight before.
    · obtain start | ended := concord.runs runs
      · cases headed.symm.trans start
        simp [flies, ends]
      · exact more ended
  -- A link that is lost is no end of a window: a command that came meanwhile stays.
  | lost commands events follows sent unsent linked free =>
    have flies : flight next result = flight device.env.1 task ++ [.disconnected] := by
      simp [flight, RadioUnit.reports, events, sent, unsent]
    have heads : course next result = course device.env.1 task := by
      rw [course, course, commands, follows]
    have same : (flight next result).any (·.ends device.window) =
        (flight device.env.1 task).any (·.ends device.window) := by
      simp [flies, RadioEvent.ends]
    refine ⟨?_, ?_, ?_, ?_, ?_⟩
    · rw [flies]
      exact concord.links_append (by simp [RadioEvent.linkAfter?, linked, free])
    · rw [heads, same]
      exact concord.runs
    · rw [heads]
      exact concord.told
    · rw [same]
      exact concord.late
    · rw [heads, same]
      exact concord.clear

/-! ## Reports that are handled -/

section Received

variable {event : RadioEvent} {events : Channel RadioEvent 8}

theorem flight_report (task : Advertiser)
    (waits : device.env.1.events.receive? = some (event, events))
    (report : event.isReport = true) :
    flight device.env.1 task = event :: flight { device.env.1 with events } task := by
  rw [flight, RadioUnit.reports, Channel.receive?_eq_some_iff.1 waits, List.filter_cons_of_pos report]
  rfl

theorem flight_other (task : Advertiser)
    (waits : device.env.1.events.receive? = some (event, events))
    (other : event.isReport = false) :
    flight device.env.1 task = flight { device.env.1 with events } task := by
  rw [flight, RadioUnit.reports, Channel.receive?_eq_some_iff.1 waits,
    List.filter_cons_of_neg (by simp [other])]
  rfl

/-- The report that is handled next fits the controller's link. -/
theorem fits (concord : Concord device task crossed)
    (waits : device.env.1.events.receive? = some (event, events)) :
    (event.linkAfter? (decide (device.link ≠ .down))).isSome = true := by
  have links := concord.links
  cases event with
  | bonded | storageFull | bondsErased => rfl
  | connected | disconnected | timedOut =>
    rw [flight_report task waits rfl, List.foldlM_cons] at links
    obtain ⟨linked, fits, -⟩ := Option.bind_eq_some_iff.1 links
    exact Option.isSome_of_eq_some fits

/-- A report that leaves nothing running. -/
theorem stops (concord : Concord device task crossed)
    (links : (flight after.env.1 task).foldlM RadioEvent.linkAfter? (decide (after.link ≠ .down)) =
      some task.linked)
    (heads : course after.env.1 task = course device.env.1 task) (off : after.running = false)
    (ended : device.running = true →
      (flight device.env.1 task).any (·.ends device.window) = true) :
    Concord after task crossed where
  links := links
  runs := fun runs => by simp [off] at runs
  told := by
    intro profile window told
    rw [heads] at told
    -- If the device still took the window to be running, its end was in flight.
    obtain runs | late := concord.told profile window told
    · cases clear : crossed with
      | true => exact .inr rfl
      | false => exact absurd told (concord.clear clear runs (ended runs) profile window)
    · exact .inr late
  late := fun _ runs => by simp [off] at runs
  clear := fun _ runs => by simp [off] at runs

theorem received (concord : Concord device task crossed) (flags : FlagsAgree device)
    (waits : device.env.1.events.receive? = some (event, events)) :
    Concord (Device.received { device with env := ({ device.env.1 with events }, device.env.2) } event)
      task crossed := by
  have links := concord.links
  cases event with
  | bonded | storageFull | bondsErased =>
    exact concord.keeps (flight_other task waits rfl).symm (fun _ _ => Iff.rfl) rfl
  | connected peer handle =>
    have flies := flight_report task waits rfl
    rw [flies] at links
    have down : device.link = .down := by
      simpa [RadioEvent.linkAfter?] using concord.fits waits
    rw [Device.received, if_pos down]
    refine concord.stops ?_ rfl rfl fun _ => by simp [flies, RadioEvent.ends]
    simpa [RadioEvent.linkAfter?, Device.linked, down] using links
  | disconnected =>
    have flies := flight_report task waits rfl
    rw [flies] at links
    have linked : device.link ≠ .down := by
      simpa [RadioEvent.linkAfter?] using concord.fits waits
    rw [Device.received, if_neg linked]
    refine concord.stops ?_ rfl rfl fun runs => absurd (flags.runs runs).2 linked
    simpa [RadioEvent.linkAfter?, Device.unlinked, linked] using links
  | timedOut window =>
    have flies := flight_report task waits rfl
    rw [flies] at links
    rw [Device.received]
    by_cases present : window = device.window
    · rw [if_pos present]
      refine concord.stops links rfl rfl fun _ => ?_
      simp [flies, RadioEvent.ends, present]
    · rw [if_neg present]
      have same : (flight device.env.1 task).any (·.ends device.window) =
          (flight { device.env.1 with events } task).any (·.ends device.window) := by
        rw [flies]
        simp [RadioEvent.ends, present]
      refine ⟨links, ?_, concord.told, ?_, ?_⟩
      · rw [← same]
        exact concord.runs
      · rw [← same]
        exact concord.late
      · rw [← same]
        exact concord.clear

end Received

end Concord

end BondedMouse
