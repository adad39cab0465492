import BondedMouse.Proofs.Controller.Requests
import BondedMouse.Proofs.Radio.Moves
import BondedMouse.Proofs.Radio.Registry

/-! # The peers with a bond

The registry enumerates exactly the peers whose slots are occupied.  A slot that is
occupied stays so through everything but an erasure: a new bond may take the place of
the old one, and no other call of the radio unit, no move of the advertiser and no
change of security touches the slots.  Whatever reports that a peer is bonded reports
it of an occupied slot.
-/

namespace BondedMouse

namespace BondTable

/-- The peer's slot is occupied. -/
def Has (table : BondTable) (peer : PeerId) : Prop :=
  (table.bond? peer).isSome = true

instance (table : BondTable) (peer : PeerId) : Decidable (table.Has peer) :=
  inferInstanceAs (Decidable (_ = true))

/-- Who has a bond is named by the number of a slot. -/
theorem Has.eq_peerOf {table : BondTable} {peer : PeerId} (has : table.Has peer) :
    ∃ slot, peer = peerOf slot := by
  have inside : peer.raw.toNat < capacity := by
    refine Nat.lt_of_not_le fun beyond => ?_
    rw [Has, bond?, Vector.getElem?_eq_none beyond] at has
    cases has
  refine ⟨⟨peer.raw.toNat, inside⟩, ?_⟩
  obtain ⟨raw, named⟩ := peer
  simp [peerOf]

theorem not_has_empty (peer : PeerId) : ¬ empty.Has peer := by
  intro has
  obtain ⟨slot, rfl⟩ := has.eq_peerOf
  rw [Has, bond?_peerOf] at has
  simp [empty] at has

/-! ## Enumeration -/

/-- The occupied slots from a slot on. -/
def occupiedFrom (table : BondTable) (start : Nat) : List (Fin capacity) :=
  (List.finRange capacity).filter fun slot =>
    start ≤ slot.val && (table.bond? (peerOf slot)).isSome

theorem next?_eq_head? (table : BondTable) (after : Option PeerId) :
    table.next? after =
      ((table.occupiedFrom (after.elim 0 fun peer => peer.raw.toNat + 1)).head?).map peerOf := by
  rw [occupiedFrom, List.head?_filter]
  cases after <;> rfl

/-- Behind the first occupied slot come the others. -/
theorem occupiedFrom_tail {table : BondTable} {start : Nat} {slot : Fin capacity}
    {slots : List (Fin capacity)} (occupied : table.occupiedFrom start = slot :: slots) :
    table.occupiedFrom (slot.val + 1) = slots := by
  have from_start : start ≤ slot.val := by
    have member : slot ∈ table.occupiedFrom start := occupied ▸ List.mem_cons_self
    simp only [occupiedFrom, List.mem_filter, Bool.and_eq_true, decide_eq_true_eq] at member
    exact member.2.1
  have ascending : (slot :: slots).Pairwise (· < ·) :=
    occupied ▸ (List.pairwise_lt_finRange capacity).filter _
  obtain ⟨behind, -⟩ := List.pairwise_cons.1 ascending
  calc table.occupiedFrom (slot.val + 1)
    _ = (table.occupiedFrom start).filter fun other => slot.val + 1 ≤ other.val := by
      rw [occupiedFrom, occupiedFrom, List.filter_filter]
      refine List.filter_congr fun other _ => ?_
      by_cases later : slot.val + 1 ≤ other.val
      · simp [later, show start ≤ other.val by omega]
      · simp [later]
    _ = slots := by
      rw [occupied, List.filter_cons_of_neg (by simp)]
      exact List.filter_eq_self.2 fun other member => decide_eq_true (behind other member)

theorem yields_occupiedFrom {table : BondTable} {slots : List (Fin capacity)}
    {after : Option PeerId}
    (occupied : table.occupiedFrom (after.elim 0 fun peer => peer.raw.toNat + 1) = slots) :
    Registry.Yields table.next? after (slots.map peerOf) := by
  induction slots generalizing after with
  | nil =>
    show table.next? after = none
    rw [next?_eq_head?, occupied]
    rfl
  | cons slot slots ih =>
    refine ⟨by rw [next?_eq_head?, occupied]; rfl, ih ?_⟩
    have small : slot.val % 256 = slot.val :=
      Nat.mod_eq_of_lt (Nat.lt_trans slot.isLt (by decide))
    simpa [peerOf, small] using occupiedFrom_tail occupied

theorem yields_peers (table : BondTable) : Registry.Yields table.next? none table.peers := by
  refine yields_occupiedFrom ?_
  simp [occupiedFrom]

theorem nodup_peers (table : BondTable) : table.peers.Nodup :=
  ((List.nodup_finRange capacity).filter _).map fun _ _ => peerOf_injective

theorem mem_peers_iff {table : BondTable} {peer : PeerId} :
    peer ∈ table.peers ↔ table.Has peer := by
  simp only [peers, List.mem_map, List.mem_filter, List.mem_finRange, true_and]
  constructor
  · rintro ⟨slot, occupied, rfl⟩
    exact (congrArg Option.isSome (table.bond?_peerOf slot)).trans occupied
  · intro has
    obtain ⟨slot, rfl⟩ := has.eq_peerOf
    rw [Has, bond?_peerOf] at has
    exact ⟨slot, has, rfl⟩

/-! ## New bonds -/

theorem has_set {table : BondTable} {slot : Fin capacity} {bond : Bond} {peer : PeerId} :
    (⟨table.slots.set slot (some bond) slot.isLt⟩ : BondTable).Has peer ↔
      peer = peerOf slot ∨ table.Has peer := by
  constructor
  · intro has
    obtain ⟨other, rfl⟩ := has.eq_peerOf
    by_cases same : slot = other
    · exact .inl (same ▸ rfl)
    · have apart : slot.val ≠ other.val := fun equal => same (Fin.ext equal)
      refine .inr ?_
      rw [Has, bond?_peerOf] at has ⊢
      simpa [Vector.getElem_set_ne, apart] using has
  · rintro (rfl | has)
    · rw [Has, bond?_peerOf]
      simp
    · obtain ⟨other, rfl⟩ := has.eq_peerOf
      rw [Has, bond?_peerOf] at has ⊢
      by_cases same : slot = other
      · subst same
        simp
      · have apart : slot.val ≠ other.val := fun equal => same (Fin.ext equal)
        simpa [Vector.getElem_set_ne, apart] using has

/-- A bond that is kept occupies the slot of the peer that is named, and frees no other. -/
theorem has_keep {table : BondTable} {bond : Bond} {peer : PeerId} :
    (table.keep bond).2.Has peer ↔ (table.keep bond).1 = some peer ∨ table.Has peer := by
  unfold keep
  cases table.slotFor? bond with
  | none => simp
  | some slot =>
    rw [has_set]
    simp [eq_comm]

theorem has_of_showing {table : BondTable} {address : Address} {peer : PeerId}
    (showing : table.peerShowing? address = some peer) : table.Has peer := by
  obtain ⟨slot, found, rfl⟩ := Option.map_eq_some_iff.1 showing
  rw [Has, bond?_peerOf]
  have held : table.slots.find? (·.any (·.identity.isMatch address)) = some table.slots[slot] := by
    rw [Vector.find?_eq_map_findFinIdx?_getElem, found]
    rfl
  exact Option.isSome_of_any (Vector.find?_some held)

end BondTable

/-- The radio unit's registry enumerates the peers that have a bond, and no others. -/
theorem Registry.enumerates_iff_has {σ : Type} (platform : RadioUnit × σ) (peer : PeerId) :
    Registry.enumerates platform peer = true ↔ platform.1.bonds.Has peer := by
  rw [Registry.enumerates_iff platform.1.bonds.yields_peers platform.1.bonds.nodup_peers]
  exact BondTable.mem_peers_iff

/-! ## Calls of the radio unit -/

/-- The same bonds, and the same events that wait. -/
structure RadioUnit.SameBonds (unit after : RadioUnit) : Prop where
  bonds : after.bonds = unit.bonds
  events : after.events = unit.events

namespace RadioUnit

theorem request_sameBonds (unit : RadioUnit) {request : RadioRequest}
    (keeps : request ≠ .forgetBonds) : unit.SameBonds (unit.request request).2 := by
  cases request with
  | start | stop =>
    simp only [request, postCommand]
    split <;> exact ⟨rfl, rfl⟩
  | whitelist | identities | disconnect => exact ⟨rfl, rfl⟩
  | forgetBonds => exact absurd rfl keeps
  | movement link movement =>
    obtain ⟨board, moved⟩ := unit.moveCursor_board link movement
    simp only [request, moved]
    exact ⟨rfl, rfl⟩

end RadioUnit

theorem Calls.sameBonds {σ : Type} [RecordStore σ] {env last : RadioUnit × σ}
    (calls : Calls env last) : env.1.SameBonds last.1 := by
  induction calls with
  | refl => exact ⟨rfl, rfl⟩
  | @request last _ request keeps ih =>
    have asked := last.1.request_sameBonds keeps
    exact ⟨asked.bonds.trans ih.bonds, asked.events.trans ih.events⟩
  | read _ key room ih => exact ih
  | write _ key bytes ih => exact ih
  | reclaim _ ih => exact ih

/-! ## Reports of bonds -/

namespace RadioUnit

/-- Every peer that is reported as bonded has a bond. -/
def Covers (unit : RadioUnit) : Prop :=
  ∀ peer, .bonded peer ∈ unit.events.items → unit.bonds.Has peer

theorem mem_events_postEvent {unit : RadioUnit} {posted event : RadioEvent}
    (waits : event ∈ (unit.postEvent posted).events.items) :
    event ∈ unit.events.items ∨ event = posted := by
  have items : (unit.postEvent posted).events.items = (unit.events.items ++ [posted]).take 8 :=
    Channel.items_sendOrDrop ..
  rw [items] at waits
  simpa using List.mem_of_mem_take waits

/-- A new bond covers its own report, and no peer loses its bond. -/
theorem Covers.onBonded {unit : RadioUnit} (covers : unit.Covers) (bond : Bond) :
    (unit.onBonded bond).Covers ∧
      ∀ peer, unit.bonds.Has peer → (unit.onBonded bond).bonds.Has peer := by
  have kept := fun peer => @BondTable.has_keep unit.bonds bond peer
  unfold RadioUnit.onBonded
  generalize unit.bonds.keep bond = result at kept
  obtain ⟨named, bonds⟩ := result
  cases named with
  | none => exact ⟨covers, fun _ => id⟩
  | some named =>
    refine ⟨fun peer waits => ?_, fun peer has => (kept peer).2 (.inr has)⟩
    obtain before | own := mem_events_postEvent waits
    · exact (kept peer).2 (.inr (covers peer before))
    · cases own
      exact (kept _).2 (.inl rfl)

theorem Covers.onSecurity {unit : RadioUnit} (covers : unit.Covers) (address : Address)
    (mode : SecurityMode) :
    (unit.onSecurity address mode).Covers ∧ (unit.onSecurity address mode).bonds = unit.bonds := by
  unfold RadioUnit.onSecurity
  split
  · split
    · next peer showing =>
      refine ⟨fun other waits => ?_, rfl⟩
      obtain before | own := mem_events_postEvent waits
      · exact covers other before
      · cases own
        exact BondTable.has_of_showing showing
    · exact ⟨covers, rfl⟩
  · exact ⟨covers, rfl⟩

end RadioUnit

namespace Advertiser

variable {unit next : RadioUnit} {task result : Advertiser}

theorem bonds_take (unit : RadioUnit) (window : Window) (outcome : Outcome) :
    (take unit window outcome).1.bonds = unit.bonds := by
  cases outcome with
  | connected address handle => cases handle <;> rfl
  | timeout | noFreeLink | failed => rfl

/-- A move of the advertiser leaves the bonds alone. -/
theorem bonds_step? (moves : step? unit task = some (next, result)) : next.bonds = unit.bonds := by
  cases task with
  | ready kept =>
    cases kept with
    | none =>
      obtain ⟨⟨command, commands⟩, -, moved⟩ := Option.map_eq_some_iff.1 moves
      cases moved
      rfl
    | some command =>
      cases command <;> cases moves <;> rfl
  | advertising profile window started =>
    simp only [step?, stepWindow?] at moves
    split at moves
    · cases moves
      rfl
    · split at moves
      · split at moves
        · cases moves
        · have taken := Option.some.inj moves
          rw [show next = _ from (congrArg Prod.fst taken).symm]
          exact bonds_take ..
      · cases moves
        rfl
  | announcing | connecting | closing =>
    obtain ⟨events, -, moved⟩ := Option.map_eq_some_iff.1 moves
    cases moved
    rfl
  | holding kept deadline =>
    cases deadline with
    | none =>
      simp only [step?, stepLink?] at moves
      split at moves <;> cases moves <;> rfl
    | some deadline =>
      simp only [step?, stepLink?] at moves
      split at moves
      · cases moves
        rfl
      · split at moves <;> cases moves
        rfl

theorem covers_step? (covers : unit.Covers) (moves : step? unit task = some (next, result)) :
    next.Covers := by
  intro peer waits
  rw [bonds_step? moves]
  cases step?_moves moves with
  | took waited events | turned commands events | ended idle commands events
  | lost commands events => exact covers peer (events ▸ waits)
  | reported commands events report =>
    rw [events] at waits
    obtain before | own := List.mem_append.1 waits
    · exact covers peer before
    -- No report of the advertiser is of a bond.
    · rw [← List.mem_singleton.1 own] at report
      cases report

end Advertiser

end BondedMouse
