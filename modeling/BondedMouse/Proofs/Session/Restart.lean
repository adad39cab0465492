import BondedMouse.Controller.Platform
import BondedMouse.Proofs.Controller.Saving
import BondedMouse.Proofs.Radio.Registry
import BondedMouse.Proofs.Ranking.Codec
import BondedMouse.Proofs.Session.Targets
import BondedMouse.Proofs.Storage.Keeping
import BondedMouse.Simulation.Journal
import BondedMouse.Simulation.Platform

/-! # The ranking across a restart

A ranking that counts as saved is in the record store, if the calls to the store vouch
for it: the last write succeeded, or a ranking was read since.  So a device that starts
on the same store has the same ranking again, without the peers that its registry no
longer has; and it writes the ranking back only if there were any.
-/

namespace BondedMouse

/-! ## What the calls say of the record -/

namespace Simulation

/-- What a call tells about the record of the ranking: a write by its result, a read if it found a
ranking. -/
def Call.vouches? : Call → Option Bool
  | .write _ _ result => some result.isOk
  | .read _ result => (Device.answered? result).map fun _ => true
  | .radio _ _ | .reclaim _ => none

/-- What a call tried to write. -/
def Call.written? : Call → Option (UInt16 × List UInt8)
  | .write key bytes _ => some (key, bytes)
  | .radio _ _ | .read _ _ | .reclaim _ => none

namespace Journaled

variable {ε : Type} {env last : Journaled ε}

/-- The last write succeeded, or a ranking was read since. -/
def Vouched (env : Journaled ε) : Prop :=
  (env.calls.filterMap Call.vouches?).getLast? = some true

instance : Decidable env.Vouched := inferInstanceAs (Decidable (_ = some true))

def writes (env : Journaled ε) : List (UInt16 × List UInt8) :=
  env.calls.filterMap Call.written?

theorem vouched_told {call : Call} {told : Bool} (noted : last.calls = env.calls ++ [call])
    (tells : call.vouches? = some told) : last.Vouched ↔ told = true := by
  simp [Vouched, noted, tells]

theorem vouched_untold {call : Call} (noted : last.calls = env.calls ++ [call])
    (silent : call.vouches? = none) : last.Vouched ↔ env.Vouched := by
  simp [Vouched, noted, silent]

theorem writes_note (call : Call) (noted : last.calls = env.calls ++ [call]) :
    last.writes = env.writes ++ call.written?.toList := by
  cases written : call.written? <;> simp [writes, noted, written]

end Journaled

end Simulation

open Simulation

section Store

variable {ρ σ : Type} [RecordStore σ] [KeepsRecords σ]

/-- The record of the ranking. -/
def Simulation.Journaled.stored? (env : Journaled (ρ × σ)) : Option (List UInt8) :=
  KeepsRecords.record? Ranking.Record.key env.env.2

/-- The store answers with a ranking exactly if it holds its record. -/
theorem answered?_eq_some_iff {env : Journaled (ρ × σ)} {ranking : Ranking} :
    Device.answered? (RecordStore.read Ranking.Record.key Ranking.Record.room env).1 =
        some ranking ↔
      ranking.WellFormed ∧ env.stored? = some ranking.encode := by
  have reads : (RecordStore.read Ranking.Record.key Ranking.Record.room env).1 =
    (RecordStore.read Ranking.Record.key Ranking.Record.room env.env.2).1 := rfl
  rw [reads]
  constructor
  · intro answered
    cases answer : (RecordStore.read Ranking.Record.key Ranking.Record.room env.env.2).1 with
    | error error => simp [answer, Device.answered?] at answered
    | ok reading =>
      rw [answer] at answered
      obtain ⟨reading, rfl, found⟩ := Option.bind_eq_some_iff.1 answered
      obtain ⟨bytes, held, rfl⟩ := KeepsRecords.read_sound answer
      simp only [Ranking.ofReading?] at found
      split at found
      · next fits =>
        rw [List.take_of_length_le fits, List.take_length] at found
        obtain ⟨formed, rfl⟩ := Ranking.decode?_eq_some_iff.1 found
        exact ⟨formed, held⟩
      · cases found
  · rintro ⟨formed, held⟩
    have fits : ranking.encode.length ≤ Ranking.Record.room := by
      simp [Ranking.Record.room]
    rw [KeepsRecords.read_whole held fits]
    show Ranking.ofReading? ⟨ranking.encode.length, ranking.encode⟩ = some ranking
    rw [Ranking.ofReading?, if_pos fits, List.take_length]
    exact Ranking.decode?_eq_some_iff.2 ⟨formed, rfl⟩

variable {env last : Journaled (ρ × σ)}

theorem Simulation.Journaled.stored?_persist {ranking : Ranking}
    (done : (ranking.persist env).1 = .ok ()) :
    (ranking.persist env).2.stored? = some ranking.encode := by
  have written : (RecordStore.write Ranking.Record.key ranking.encode env.env.2).1 = .ok () := done
  exact (KeepsRecords.record?_write written).trans (if_pos rfl)

/-- The record of the ranking is as it was, and so is what the calls say of it. -/
structure SameRecord (env last : Journaled (ρ × σ)) : Prop where
  stored : last.stored? = env.stored?
  vouched : last.Vouched ↔ env.Vouched
  writes : last.writes = env.writes

namespace SameRecord

theorem trans {middle : Journaled (ρ × σ)} (first : SameRecord env middle)
    (rest : SameRecord middle last) : SameRecord env last :=
  ⟨rest.stored.trans first.stored, rest.vouched.trans first.vouched,
    rest.writes.trans first.writes⟩

/-- A call that tells nothing of the record and leaves it as it was. -/
theorem of_note (call : Call) (noted : last.calls = env.calls ++ [call])
    (silent : call.vouches? = none) (unwritten : call.written? = none)
    (stored : last.stored? = env.stored?) : SameRecord env last where
  stored := stored
  vouched := Journaled.vouched_untold noted silent
  writes := by simp [Journaled.writes_note call noted, unwritten]

theorem of_spares [RadioStack ρ] (spares : SparesRecords env last) : SameRecord env last := by
  induction spares with
  | none => exact ⟨rfl, .rfl, rfl⟩
  | request _ request ih => exact ih.trans (.of_note (.radio request _) rfl rfl rfl rfl)

end SameRecord

/-! ## The ranking and its record -/

/-- The ranking is well formed.  If it counts as saved, and the calls vouch for the record, then
the record is its own. -/
structure Kept (device : Device (Journaled (ρ × σ))) : Prop where
  formed : device.ranking.WellFormed
  recorded : device.unsaved = false → device.env.Vouched →
    device.env.stored? = some device.ranking.encode

namespace Kept

variable {device after : Device (Journaled (ρ × σ))}

theorem of_same (kept : Kept device) (ranking : after.ranking = device.ranking)
    (unsaved : after.unsaved = device.unsaved) (same : SameRecord device.env after.env) :
    Kept after where
  formed := by rw [ranking]; exact kept.formed
  recorded saved vouched := by
    rw [same.stored, ranking]
    exact kept.recorded (unsaved.symm.trans saved) (same.vouched.1 vouched)

/-- Nothing is claimed of a ranking that is yet to be saved. -/
theorem of_unsaved (formed : device.ranking.WellFormed) (unsaved : device.unsaved = true) :
    Kept device :=
  ⟨formed, fun saved => by simp [unsaved] at saved⟩

/-- An attempt to save leaves the record of the ranking behind, or a ranking that is yet to be
saved, or a write that failed. -/
theorem flushed (kept : Kept device) : Kept (Controller.final (Controller.saveRanking device)) := by
  have flushes := Controller.saveRanking_flushes device
  generalize Controller.saveRanking device = result at flushes
  cases flushes with
  | clean saved => exact kept
  | written unsaved done => exact ⟨kept.formed, fun _ _ => Journaled.stored?_persist done⟩
  | waits unsaved busy few => exact .of_unsaved kept.formed unsaved
  | givenUp unsaved failed spent =>
    refine ⟨kept.formed, fun _ vouched => ?_⟩
    have told : Call.vouches? (.write Ranking.Record.key device.ranking.encode
        (device.ranking.persist device.env).1) = some false := by
      simp [Call.vouches?, failed, Except.isOk, Except.toBool]
    simpa using (Journaled.vouched_told rfl told).1 vouched

/-- A start takes the ranking from the record, or keeps its own where there is none. -/
theorem restored (kept : Kept device) : Kept device.restored where
  formed := Ranking.wellFormed_closed.restore kept.formed device.env
  recorded := by
    intro saved vouched
    have record : device.restored.env.stored? = device.env.stored? := by
      rw [device.env_restored]
      exact KeepsRecords.record?_read _ _ _ _
    rw [record, device.ranking_restored]
    cases answer : Device.answered?
        (RecordStore.read Ranking.Record.key Ranking.Record.room device.env).1 with
    | some stored => exact (answered?_eq_some_iff.1 answer).2
    | none =>
      -- The read told nothing, so the calls before it vouch for the record.
      rw [device.env_restored] at vouched
      have silent : Call.vouches? (.read Ranking.Record.key
          (RecordStore.read Ranking.Record.key Ranking.Record.room device.env).1) = none := by
        simp [Call.vouches?, answer]
      exact kept.recorded saved ((Journaled.vouched_untold rfl silent).1 vouched)

theorem collected (kept : Kept device) :
    Kept (Controller.final (Controller.onStorageFull device)) := by
  rw [Controller.final_onStorageFull]
  exact kept.of_same rfl rfl
    (.of_note (.reclaim _) rfl rfl rfl (KeepsRecords.record?_reclaim _ _))

variable [RadioStack ρ]

theorem spares (kept : Kept device) (spares : Spares device after) : Kept after :=
  kept.of_same spares.ranking spares.unsaved (.of_spares spares.records)

theorem pruned (kept : Kept device) : Kept device.pruned := by
  obtain same | unsaved := device.pruned_eq_or kept.formed
  · rwa [same]
  · exact .of_unsaved (Ranking.wellFormed_closed.retain _ kept.formed) unsaved

theorem maintained : Maintained (Kept : Device (Journaled (ρ × σ)) → Prop) where
  spares kept spares := kept.spares spares
  flushed kept := kept.flushed
  restored kept := kept.restored
  pruned kept := kept.pruned
  inserted peer kept := .of_unsaved (Ranking.wellFormed_closed.insert peer kept.formed) rfl
  emptied _ := .of_unsaved Ranking.wellFormed_closed.empty rfl

end Kept

/-! ## Runs -/

section Runs

variable [RadioStack ρ]

theorem Kept.performed {session : Session (Journaled (ρ × σ))} (wired : session.Wired)
    (kept : Kept session.device) (operation : Operation) :
    Kept (session.perform operation).2.device :=
  Kept.maintained.performed Kept.collected wired kept operation

/-- The sessions that a run reaches, in which operations may fail.  In between the radio changes on
its own, and so does the store, but for the record of the ranking. -/
inductive StoreRun (started : Session (Journaled (ρ × σ))) : Session (Journaled (ρ × σ)) → Prop
  | start : StoreRun started started
  | operation {session : Session (Journaled (ρ × σ))} (run : StoreRun started session)
      (operation : Operation) : StoreRun started (session.perform operation).2
  | outside {session : Session (Journaled (ρ × σ))} (run : StoreRun started session) (radio : ρ)
      (store : σ) (holds : KeepsRecords.record? Ranking.Record.key store =
        session.device.env.stored?) :
      StoreRun started
        (session.moved (.outside { session.device.env with env := (radio, store) })).2

theorem StoreRun.kept {started session : Session (Journaled (ρ × σ))}
    (run : StoreRun started session) (wired : started.Wired) (kept : Kept started.device) :
    session.Wired ∧ Kept session.device := by
  induction run with
  | start => exact ⟨wired, kept⟩
  | operation run operation ih => exact ⟨ih.1.moved (.operation operation), ih.2.performed ih.1 _⟩
  | outside run radio store holds ih =>
    exact ⟨ih.1.moved (.outside _), ih.2.of_same rfl rfl ⟨holds, .rfl, rfl⟩⟩

end Runs

/-! ## Restarts -/

section Restarts

omit [KeepsRecords σ] in
theorem writes_saveRanking (device : Device (Journaled (ρ × σ))) :
    (Controller.final (Controller.saveRanking device)).env.writes = device.env.writes ++
      if device.unsaved then [(Ranking.Record.key, device.ranking.encode)] else [] := by
  have persisted : (device.ranking.persist device.env).2.writes =
      device.env.writes ++ [(Ranking.Record.key, device.ranking.encode)] :=
    Journaled.writes_note (.write _ _ _) rfl
  have flushes := Controller.saveRanking_flushes device
  generalize Controller.saveRanking device = result at flushes
  cases flushes with
  | clean saved => simp [saved, Controller.final]
  | written unsaved done => simpa [unsaved, Controller.final] using persisted
  | waits unsaved busy few => simpa [unsaved, Controller.final] using persisted
  | givenUp unsaved failed spent => simpa [unsaved, Controller.final] using persisted

variable [RadioStack ρ] {device : Device (Journaled (ρ × σ))} {ranking : Ranking}
  {peers : List PeerId}

/-- What a start makes of the ranking before it opens a window. -/
theorem pruned_restored (formed : ranking.WellFormed)
    (stored : device.env.stored? = some ranking.encode) (saved : device.unsaved = false)
    (yields : Registry.Yields (RadioStack.nextPeer device.env.env.1) none peers)
    (distinct : peers.Nodup) :
    device.restored.pruned.ranking.toList = ranking.toList.filter (· ∈ peers) ∧
    (device.restored.pruned.unsaved = true ↔ ¬∀ peer ∈ ranking.toList, peer ∈ peers) ∧
    device.restored.pruned.env.writes = device.env.writes := by
  have restored : device.restored.ranking = ranking := by
    rw [device.ranking_restored, answered?_eq_some_iff.2 ⟨formed, stored⟩, Option.getD_some]
  have enumerates (peer : PeerId) :
      Registry.enumerates device.restored.env peer = true ↔ peer ∈ peers := by
    refine Registry.enumerates_iff ?_ distinct peer
    rw [device.env_restored]
    exact yields
  refine ⟨?_, ?_, ?_⟩
  · show (device.restored.ranking.retain (Registry.enumerates device.restored.env)).2.toList = _
    rw [restored, Ranking.toList_retain]
    exact List.filter_congr fun peer _ => by simp [← enumerates]
  · show (device.unsaved || decide (0 < (device.restored.ranking.retain
      (Registry.enumerates device.restored.env)).1)) = true ↔ _
    rw [restored, saved, Bool.false_or, decide_eq_true_eq, Nat.pos_iff_ne_zero, Ne,
      formed.dropped_eq_zero_iff]
    simp only [enumerates]
  · show device.restored.env.writes = _
    rw [device.env_restored]
    exact (Journaled.writes_note (.read _ _) rfl).trans (by simp [Call.written?])

/-- A start takes the ranking from its record and drops the peers that the registry does not have.
It writes the ranking back if there were any, and else writes nothing. -/
theorem start_brings_back (formed : ranking.WellFormed)
    (stored : device.env.stored? = some ranking.encode) (saved : device.unsaved = false)
    (yields : Registry.Yields (RadioStack.nextPeer device.env.env.1) none peers)
    (distinct : peers.Nodup)
    (granted : ∀ error last, Controller.start device ≠ .error (.stack error) last) :
    (Controller.final (Controller.start device)).ranking.toList =
      ranking.toList.filter (· ∈ peers) ∧
    (Controller.final (Controller.start device)).env.writes = device.env.writes ++
      if ∀ peer ∈ ranking.toList, peer ∈ peers then []
      else [(Ranking.Record.key, (Controller.final (Controller.start device)).ranking.encode)] := by
  obtain ⟨ranked, dropped, writes⟩ := pruned_restored formed stored saved yields distinct
  have asks := Controller.putInForce_asks device.restored.pruned.forSequence
  have spares := (Describes.sequence device.restored.pruned).spares (.refl _)
  rw [Controller.start_apply, Controller.bind_apply] at granted ⊢
  generalize Controller.putInForce device.restored.pruned.forSequence = result
    at asks spares granted
  cases result with
  | error fault next =>
    obtain ⟨error, rfl⟩ := asks.error
    exact absurd rfl (granted error next)
  | ok value next =>
    have same : next.ranking = device.restored.pruned.ranking := spares.ranking
    have unsaved : next.unsaved = device.restored.pruned.unsaved := spares.unsaved
    have written : next.env.writes = device.restored.pruned.env.writes :=
      (SameRecord.of_spares spares.records).writes
    dsimp only
    rw [Controller.ranking_saveRanking, writes_saveRanking, same, unsaved, written, writes]
    refine ⟨ranked, ?_⟩
    by_cases all : ∀ peer ∈ ranking.toList, peer ∈ peers
    · rw [if_pos all, if_neg fun lost => dropped.1 lost all]
    · rw [if_neg all, if_pos (dropped.2 all)]

end Restarts

/-- A new session, with an empty ranking and a registry of these peers, on the store that another
session left behind.  The stack refuses nothing when it starts. -/
structure StartsAnew [RadioStack ρ] {ρ' : Type} [RadioStack ρ'] (session : Session (Journaled (ρ × σ)))
    (peers : List PeerId) (restarted : Session (Journaled (ρ' × σ))) : Prop where
  powered : ∃ radio reserved,
    Session.powerUp .empty (.new (radio, session.device.env.env.2)) reserved = .ok restarted
  yields : Registry.Yields (RadioStack.nextPeer restarted.device.env) none peers
  distinct : peers.Nodup
  granted : ∀ error, (restarted.perform .start).1 ≠ .error (.stack error)

/-- The record is that of the ranking whenever the ranking counts as saved and the calls vouch for
it.  A session that starts on the same store has the ranking again, in its order and without the
peers that its registry lacks; it writes the ranking back if there were any. -/
theorem ranking_survives_restart [RadioStack ρ] (ρ' : Type) [RadioStack ρ'] {ranking : Ranking}
    {radio : ρ} {store : σ} {reserved : Nat} {started session : Session (Journaled (ρ × σ))}
    (formed : ranking.WellFormed)
    (powered : Session.powerUp ranking (.new (radio, store)) reserved = .ok started)
    (run : StoreRun started session) (saved : session.device.unsaved = false)
    (vouched : session.device.env.Vouched) :
    session.device.env.stored? = some session.device.ranking.encode ∧
    ∀ (peers : List PeerId) (restarted : Session (Journaled (ρ' × σ))),
      StartsAnew session peers restarted →
      (restarted.perform .start).2.device.ranking.toList =
        session.device.ranking.toList.filter (· ∈ peers) ∧
      (restarted.perform .start).2.device.env.writes =
        if ∀ peer ∈ session.device.ranking.toList, peer ∈ peers then []
        else [(Ranking.Record.key, (restarted.perform .start).2.device.ranking.encode)] := by
  obtain ⟨wired, scanTimer, timers, device⟩ := Session.powerUp_eq_ok powered
  have begins : Kept started.device := by
    rw [device]
    exact ⟨formed, fun _ vouched => by cases vouched⟩
  have kept := (run.kept wired begins).2
  have stored := kept.recorded saved vouched
  refine ⟨stored, ?_⟩
  intro peers restarted anew
  obtain ⟨⟨radio, reserved, powered⟩, yields, distinct, granted⟩ := anew
  obtain ⟨-, scanTimer, timers, device⟩ := Session.powerUp_eq_ok powered
  have holds : restarted.device.env.stored? = some session.device.ranking.encode := by
    rw [device]
    exact stored
  have clean : restarted.device.unsaved = false := by rw [device]; rfl
  have silent : restarted.device.env.writes = [] := by rw [device]; rfl
  have answered (error : StackError) (last : Device (Journaled (ρ' × σ))) :
      Controller.start restarted.device ≠ .error (.stack error) last := by
    intro refused
    apply granted error
    show (restarted.control Controller.start).1 = _
    rw [Session.control_apply, refused]
  have brought := start_brings_back kept.formed holds clean yields distinct answered
  have left : (restarted.perform .start).2.device =
      Controller.final (Controller.start restarted.device) := Session.control_device _ _
  rw [silent, List.nil_append] at brought
  rw [left]
  exact brought

end Store

section Bench

/-- A session in memory whose registry has these peers, on a store. -/
def benchOn (registry : List PeerId) (store : RecordCache) :
    Session (Journaled (Platform × RecordCache)) :=
  .fresh .empty (.new (.new registry .empty, store))

/-- The session after two centrals have bonded, the one after the other. -/
def bondedBench : Session (Journaled (Platform × RecordCache)) :=
  [.start, .event (.connected none ⟨7⟩), .event (.bonded nearPeer), .event (.bonded farPeer)].foldl
    (fun session operation => (session.perform operation).2) (benchOn [] .empty)

/-- The session that follows, whose registry has lost the second of the two. -/
def bereftBench : Session (Journaled (Platform × RecordCache)) :=
  benchOn [nearPeer] bondedBench.device.env.env.2

theorem ranking_survives_lost_peer :
    bondedBench.device.ranking.toList = [farPeer, nearPeer] ∧
    bondedBench.device.env.stored? = some bondedBench.device.ranking.encode ∧
    (bereftBench.perform .start).2.device.ranking.toList = [nearPeer] ∧
    (bereftBench.perform .start).2.device.env.writes =
      [(Ranking.Record.key, (bereftBench.perform .start).2.device.ranking.encode)] := by
  have run : StoreRun (benchOn [] .empty) bondedBench :=
    (((StoreRun.start.operation .start).operation _).operation _).operation _
  have ranked : bondedBench.device.ranking.toList = [farPeer, nearPeer] := by decide +kernel
  have granted : (bereftBench.perform .start).1 = .ok () := by decide +kernel
  have anew : StartsAnew bondedBench [nearPeer] bereftBench := {
    powered := ⟨_, 0, Session.powerUp_fresh _ _⟩
    yields := ⟨rfl, rfl⟩
    distinct := by simp
    granted := by simp [granted] }
  obtain ⟨stored, again⟩ := ranking_survives_restart Platform Ranking.wellFormed_closed.empty
    (Session.powerUp_fresh _ _) run (by decide +kernel) (by decide +kernel)
  obtain ⟨kept, written⟩ := again [nearPeer] bereftBench anew
  rw [ranked] at kept written
  exact ⟨ranked, stored, kept, written⟩

end Bench

end BondedMouse
