import BondedMouse.Controller.Platform
import BondedMouse.Radio.Unit
import Mathlib.Data.List.Nodup
import Mathlib.Data.List.Perm.Subperm

/-! # Registries

A registry is enumerated from one peer to the next.  There are 255 numbers for peers, so
an enumeration without repeats ends within the limit of a walk, and the registry's peers
are those that it yields.  The radio unit enumerates its bonded peers by ascending slots;
such a walk never comes back to a peer.
-/

namespace BondedMouse

namespace Registry

variable {next : Option PeerId → Option PeerId}

/-- What a walk yields lies behind its cursor. -/
theorem lt_of_mem_walk
    (ascends : ∀ peer follower, next (some peer) = some follower → peer.raw < follower.raw)
    {limit : Nat} {peer member : PeerId} (found : member ∈ walk next limit (some peer)) :
    peer.raw < member.raw := by
  induction limit generalizing peer with
  | zero => cases found
  | succ limit ih =>
    simp only [walk] at found
    split at found
    · cases found
    · next follower follows =>
      have first := ascends peer follower follows
      obtain same | later := List.mem_cons.1 found
      · rwa [same]
      · exact UInt8.lt_trans first (ih later)

/-- A walk that ascends never repeats a peer. -/
theorem nodup_walk
    (ascends : ∀ peer follower, next (some peer) = some follower → peer.raw < follower.raw)
    (limit : Nat) (cursor : Option PeerId) : (walk next limit cursor).Nodup := by
  induction limit generalizing cursor with
  | zero => exact List.nodup_nil
  | succ limit ih =>
    simp only [walk]
    split
    · exact List.nodup_nil
    · next peer follows =>
      refine List.nodup_cons.2 ⟨fun repeated => ?_, ih (some peer)⟩
      exact UInt8.lt_irrefl _ (lt_of_mem_walk ascends repeated)

/-! ## Enumerations without repeats -/

/-- The enumeration yields these peers behind a cursor, and then it ends. -/
def Yields (next : Option PeerId → Option PeerId) : Option PeerId → List PeerId → Prop
  | cursor, [] => next cursor = none
  | cursor, peer :: peers => next cursor = some peer ∧ Yields next (some peer) peers

theorem walk_of_yields {cursor : Option PeerId} {peers : List PeerId}
    (yields : Yields next cursor peers) (limit : Nat) :
    walk next limit cursor = peers.take limit := by
  induction limit generalizing cursor peers with
  | zero => simp [walk]
  | succ limit ih =>
    cases peers with
    | nil => simp [walk, show next cursor = none from yields]
    | cons peer peers => simp [walk, yields.1, ih yields.2]

/-- There are 255 numbers for peers. -/
theorem length_le_of_nodup {peers : List PeerId} (distinct : peers.Nodup) :
    peers.length ≤ 255 := by
  have numbers : (peers.map fun peer => peer.raw.toNat).Nodup := by
    refine distinct.map ?_
    intro peer other same
    have raw : peer.raw = other.raw := UInt8.toNat_inj.1 same
    cases peer
    cases other
    simpa using raw
  have below : peers.map (fun peer => peer.raw.toNat) ⊆ List.range 255 := by
    intro number member
    obtain ⟨peer, -, rfl⟩ := List.mem_map.1 member
    have small := peer.raw.toNat_lt
    have named : peer.raw.toNat ≠ 255 := fun free => peer.ne_free (UInt8.toNat_inj.1 free)
    rw [List.mem_range]
    omega
  simpa using (numbers.subperm below).length_le

theorem enumerates_iff {ε : Type} [RadioStack ε] {env : ε} {peers : List PeerId}
    (yields : Yields (RadioStack.nextPeer env) none peers) (distinct : peers.Nodup)
    (peer : PeerId) : enumerates env peer = true ↔ peer ∈ peers := by
  rw [enumerates, walk_of_yields yields, List.take_of_length_le (length_le_of_nodup distinct)]
  exact List.contains_iff_mem

end Registry

theorem BondTable.raw_lt_of_next? {table : BondTable} {peer follower : PeerId}
    (follows : table.next? (some peer) = some follower) : peer.raw < follower.raw := by
  simp only [next?, Option.map_eq_some_iff] at follows
  obtain ⟨slot, found, rfl⟩ := follows
  have behind : peer.raw.toNat + 1 ≤ slot.val := by
    have holds := List.find?_some found
    simp only [Bool.and_eq_true, decide_eq_true_eq] at holds
    exact holds.1
  have raw : (peerOf slot).raw.toNat = slot.val := by
    have small : slot.val < 256 := Nat.lt_trans slot.isLt (by decide)
    simp [peerOf, Nat.mod_eq_of_lt small]
  rw [UInt8.lt_iff_toNat_lt, raw]
  exact behind

/-- The radio unit's registry has no repeats. -/
theorem RadioUnit.nodup_whitelist {σ : Type} (platform : RadioUnit × σ) :
    (Registry.whitelist platform).Nodup :=
  Registry.nodup_walk (fun _ _ follows => BondTable.raw_lt_of_next? follows) _ _

end BondedMouse
