import BondedMouse.Proofs.Radio.Bonds
import Mathlib.Data.List.Induction

/-! # One bond for each device

Two bonds are of one device if they have the identity address or the master identifier
in common.  The registry knows the device of a new bond by the first slot that matches
it, and puts the bond there; so a bond that matches two slots leaves the second one
behind.  As long as no bond does, each device has one slot, and whoever looks for a
device finds it there: by its address, by its master identifier or by its peer.
-/

namespace BondedMouse

/-! ## Bonds of one device -/

/-- The address stays the same for as long as the device lives.  Identity addresses are of this
kind. -/
def Address.IsFixed (address : Address) : Prop :=
  address.kind = .publicDevice ∨ address.kind = .randomStatic

instance (address : Address) : Decidable address.IsFixed :=
  inferInstanceAs (Decidable (_ ∨ _))

theorem Identity.isMatch_iff {identity : Identity} {address : Address} (fixed : address.IsFixed) :
    identity.isMatch address = true ↔ identity.address = address := by
  obtain kind | kind := fixed <;> simp [isMatch, kind]

namespace Bond

/-- Both bonds are of one device. -/
def SameDevice (bond other : Bond) : Prop :=
  bond.identity.address = other.identity.address ∨ bond.master = other.master

/-- A new bond is taken for one of the held bond's device. -/
def renews (bond held : Bond) : Bool :=
  held.master == bond.master || held.identity.isMatch bond.identity.address

theorem renews_iff {bond held : Bond} (fixed : bond.identity.address.IsFixed) :
    bond.renews held = true ↔ held.SameDevice bond := by
  simp [renews, SameDevice, Identity.isMatch_iff fixed, or_comm]

theorem SameDevice.symm {bond other : Bond} (same : bond.SameDevice other) :
    other.SameDevice bond :=
  same.imp Eq.symm Eq.symm

end Bond

namespace BondTable

variable {table : BondTable} {bond held : Bond} {slot : Fin capacity}

/-! ## Searches -/

/-- A search finds the first slot that passes the test. -/
theorem findFinIdx?_slots_eq_some {test : Option Bond → Bool} :
    table.slots.findFinIdx? test = some slot ↔
      test (table.bond? (peerOf slot)) = true ∧
        ∀ earlier < slot, test (table.bond? (peerOf earlier)) = false := by
  simp only [bond?_peerOf, Vector.findFinIdx?, Option.map_eq_some_iff,
    Array.findFinIdx?_eq_some_iff]
  constructor
  · rintro ⟨place, ⟨passes, first⟩, rfl⟩
    refine ⟨passes, fun earlier before => ?_⟩
    simpa using first ⟨earlier, by simp⟩ before
  · rintro ⟨passes, first⟩
    refine ⟨⟨slot, by simp⟩, ⟨passes, fun earlier before => ?_⟩, rfl⟩
    simpa using first ⟨earlier, by simpa using earlier.isLt⟩ before

theorem findFinIdx?_slots_eq_none {test : Option Bond → Bool} :
    table.slots.findFinIdx? test = none ↔
      ∀ slot : Fin capacity, test (table.bond? (peerOf slot)) = false := by
  simp only [bond?_peerOf, Vector.findFinIdx?_eq_none_iff]
  constructor
  · intro none slot
    simpa using none table.slots[slot] (by simp)
  · intro none place member
    obtain ⟨slot, inside, rfl⟩ := Vector.mem_iff_getElem.1 member
    simpa using none ⟨slot, inside⟩

/-- The only slot whose bond passes a test is the one that is found. -/
theorem findFinIdx?_slots_of_unique (test : Bond → Bool)
    (holds : table.bond? (peerOf slot) = some held) (passes : test held = true)
    (only : ∀ (other : Fin capacity) (kept : Bond), table.bond? (peerOf other) = some kept →
      test kept = true → other = slot) :
    table.slots.findFinIdx? (·.any test) = some slot := by
  rw [findFinIdx?_slots_eq_some]
  refine ⟨by simp [holds, passes], fun earlier before => ?_⟩
  apply Bool.eq_false_iff.2
  intro found
  obtain ⟨kept, there, passed⟩ := (Option.any_eq_true _ _).1 found
  exact absurd (only earlier kept there passed) (Fin.ne_of_lt before)

/-- A search in the list of bonds finds the bond of the first slot that passes. -/
theorem find?_toList (table : BondTable) (test : Bond → Bool) :
    table.toList.find? test =
      (table.slots.findFinIdx? (·.any test)).bind fun slot => table.bond? (peerOf slot) := by
  rw [toList, List.find?_filterMap, Vector.find?_toList, Vector.find?_eq_map_findFinIdx?_getElem]
  simp [Option.bind_map]

/-! ## New bonds -/

/-- The slot holds a bond that a new one is taken to renew. -/
def Matches (table : BondTable) (bond : Bond) (slot : Fin capacity) : Prop :=
  (table.bond? (peerOf slot)).any bond.renews = true

theorem matches_iff :
    table.Matches bond slot ↔
      ∃ held, table.bond? (peerOf slot) = some held ∧ bond.renews held = true := by
  simp [Matches, Option.any_eq_true]

/-- The table with a bond in the place of what a slot holds. -/
def put (table : BondTable) (slot : Fin capacity) (bond : Bond) : BondTable :=
  ⟨table.slots.set slot (some bond) slot.isLt⟩

theorem bond?_put (table : BondTable) (slot other : Fin capacity) (bond : Bond) :
    (table.put slot bond).bond? (peerOf other) =
      if other = slot then some bond else table.bond? (peerOf other) := by
  simp [put, Vector.getElem_set, Fin.ext_iff, eq_comm]

/-- What becomes of a new bond, with the peer that is named. -/
inductive Keeps (table : BondTable) (bond : Bond) : Option PeerId × BondTable → Prop
  | renewed {slot : Fin capacity} (own : table.Matches bond slot)
      (first : ∀ earlier < slot, ¬table.Matches bond earlier) :
      Keeps table bond (some (peerOf slot), table.put slot bond)
  | added {slot : Fin capacity} (new : ∀ other, ¬table.Matches bond other)
      (free : table.bond? (peerOf slot) = none)
      (first : ∀ earlier < slot, (table.bond? (peerOf earlier)).isSome = true) :
      Keeps table bond (some (peerOf slot), table.put slot bond)
  | refused (new : ∀ other, ¬table.Matches bond other)
      (full : ∀ slot : Fin capacity, (table.bond? (peerOf slot)).isSome = true) :
      Keeps table bond (none, table)

theorem keep_keeps (table : BondTable) (bond : Bond) : Keeps table bond (table.keep bond) := by
  unfold keep slotFor?
  cases found : table.slotOf? bond with
  | some slot =>
    obtain ⟨own, first⟩ := findFinIdx?_slots_eq_some.1 found
    exact .renewed own fun earlier before => Bool.eq_false_iff.1 (first earlier before)
  | none =>
    have new := findFinIdx?_slots_eq_none.1 found
    have new (slot : Fin capacity) : ¬table.Matches bond slot := Bool.eq_false_iff.1 (new slot)
    cases room : table.slots.findFinIdx? (·.isNone) with
    | some slot =>
      obtain ⟨free, first⟩ := findFinIdx?_slots_eq_some.1 room
      exact .added new (by simpa using free) fun earlier before => by simpa using first earlier before
    | none =>
      have full := findFinIdx?_slots_eq_none.1 room
      exact .refused new fun slot => by simpa using full slot

/-! ## Slots and devices -/

/-- No device has bonds in two slots. -/
def OnePerDevice (table : BondTable) : Prop :=
  ∀ (slot other : Fin capacity) (held kept : Bond), table.bond? (peerOf slot) = some held →
    table.bond? (peerOf other) = some kept → held.SameDevice kept → slot = other

/-- A new bond does not match two slots. -/
def MatchesOnce (table : BondTable) (bond : Bond) : Prop :=
  ∀ slot other, table.Matches bond slot → table.Matches bond other → slot = other

instance (table : BondTable) (bond : Bond) (slot : Fin capacity) :
    Decidable (table.Matches bond slot) :=
  inferInstanceAs (Decidable (_ = true))

instance (table : BondTable) (bond : Bond) : Decidable (table.MatchesOnce bond) :=
  inferInstanceAs (Decidable (∀ _ _, _ → _ → _))

theorem onePerDevice_empty : empty.OnePerDevice := by
  intro slot other held kept holds
  simp [empty] at holds

/-- A slot may take a bond exactly if no other slot holds one of the same device. -/
theorem OnePerDevice.put_iff (one : table.OnePerDevice) (fixed : bond.identity.address.IsFixed) :
    (table.put slot bond).OnePerDevice ↔ ∀ other ≠ slot, ¬table.Matches bond other := by
  constructor
  · intro after other apart own
    obtain ⟨held, holds, renews⟩ := matches_iff.1 own
    have same := (Bond.renews_iff fixed).1 renews
    refine apart (after other slot held bond ?_ ?_ same)
    · rw [bond?_put, if_neg apart, holds]
    · rw [bond?_put, if_pos rfl]
  · intro others slot' other held kept holds keeps same
    rw [bond?_put] at holds keeps
    split at holds <;> split at keeps
    · simp_all
    · next own apart =>
      cases holds
      exact absurd (matches_iff.2 ⟨kept, keeps, (Bond.renews_iff fixed).2 same.symm⟩)
        (others other apart)
    · next apart own =>
      cases keeps
      exact absurd (matches_iff.2 ⟨held, holds, (Bond.renews_iff fixed).2 same⟩)
        (others slot' apart)
    · exact one slot' other held kept holds keeps same

/-- Each device keeps a single slot through a new bond exactly if that does not match two. -/
theorem OnePerDevice.keep_iff (one : table.OnePerDevice) (fixed : bond.identity.address.IsFixed) :
    (table.keep bond).2.OnePerDevice ↔ table.MatchesOnce bond := by
  have keeps := table.keep_keeps bond
  generalize table.keep bond = result at keeps
  cases keeps with
  | @renewed slot own first =>
    rw [one.put_iff fixed]
    constructor
    · intro others left right matchesLeft matchesRight
      have left : left = slot := by_contra fun apart => others left apart matchesLeft
      have right : right = slot := by_contra fun apart => others right apart matchesRight
      rw [left, right]
    · intro once other apart matchesOther
      exact apart (once other slot matchesOther own)
  | added new free first =>
    rw [one.put_iff fixed]
    exact ⟨fun _ left _ own => absurd own (new left), fun _ other _ => new other⟩
  | refused new full =>
    exact ⟨fun _ left _ own => absurd own (new left), fun _ => one⟩

/-- Every bond that is held has a fixed identity address. -/
def AllFixed (table : BondTable) : Prop :=
  ∀ (slot : Fin capacity) (held : Bond), table.bond? (peerOf slot) = some held →
    held.identity.address.IsFixed

theorem AllFixed.keep (all : table.AllFixed) (fixed : bond.identity.address.IsFixed) :
    (table.keep bond).2.AllFixed := by
  have put (slot : Fin capacity) : (table.put slot bond).AllFixed := by
    intro other held holds
    rw [bond?_put] at holds
    split at holds
    · cases holds
      exact fixed
    · exact all other held holds
  have keeps := table.keep_keeps bond
  generalize table.keep bond = result at keeps
  cases keeps with
  | renewed | added => exact put _
  | refused => exact all

/-! ## Whoever looks for a device -/

/-- A device is found in its slot in each of the three ways. -/
structure FindsAlike (table : BondTable) : Prop where
  address : ∀ (slot : Fin capacity) (held : Bond), table.bond? (peerOf slot) = some held →
    table.peerShowing? held.identity.address = some (peerOf slot)
  master : ∀ (slot : Fin capacity) (held : Bond), table.bond? (peerOf slot) = some held →
    table.keyFor? held.master = some held.key
  key : ∀ address, table.keyForAddress? address =
    ((table.peerShowing? address).bind table.bond?).map fun bond => (bond.master, bond.key)

theorem OnePerDevice.findsAlike (one : table.OnePerDevice) (all : table.AllFixed) :
    table.FindsAlike where
  address := by
    intro slot held holds
    have fixed := all slot held holds
    have found := findFinIdx?_slots_of_unique (·.identity.isMatch held.identity.address)
      holds ((Identity.isMatch_iff fixed).2 rfl) fun other kept keeps shows =>
        one other slot kept held keeps holds (.inl ((Identity.isMatch_iff fixed).1 shows))
    rw [peerShowing?, found, Option.map_some]
  master := by
    intro slot held holds
    have found := findFinIdx?_slots_of_unique (·.master == held.master) holds (by simp)
      fun other kept keeps same =>
        one other slot kept held keeps holds (.inr (by simpa using same))
    rw [keyFor?, find?_toList, found, Option.bind_some, holds, Option.map_some]
  key := by
    intro address
    rw [keyForAddress?, find?_toList, peerShowing?, Option.bind_map]
    rfl

end BondTable

/-! ## Histories of bonds -/

/-- What can happen to the bonds of a radio unit. -/
inductive BondMove
  | bond (bond : Bond)
  | erase
  /-- Anything else that the unit does, such as to hand on an event. -/
  | beside (change : RadioUnit → RadioUnit) (keeps : ∀ unit, (change unit).bonds = unit.bonds)

namespace RadioUnit

open BondTable

def bondMoved (unit : RadioUnit) : BondMove → RadioUnit
  | .bond bond => unit.onBonded bond
  | .erase => (unit.request .forgetBonds).2
  | .beside change _ => change unit

def afterBonds (unit : RadioUnit) (moves : List BondMove) : RadioUnit :=
  moves.foldl bondMoved unit

theorem afterBonds_concat (unit : RadioUnit) (moves : List BondMove) (move : BondMove) :
    unit.afterBonds (moves ++ [move]) = (unit.afterBonds moves).bondMoved move := by
  simp [afterBonds]

/-- What a radio unit makes of a new bond. -/
inductive Takes (unit : RadioUnit) (bond : Bond) : RadioUnit → Prop
  | kept {peer : PeerId} {bonds : BondTable} (keeps : unit.bonds.Keeps bond (some peer, bonds)) :
      Takes unit bond ({ unit with bonds }.postEvent (.bonded peer))
  | refused (keeps : unit.bonds.Keeps bond (none, unit.bonds)) : Takes unit bond unit

theorem onBonded_takes (unit : RadioUnit) (bond : Bond) : unit.Takes bond (unit.onBonded bond) := by
  have keeps := unit.bonds.keep_keeps bond
  unfold onBonded
  generalize unit.bonds.keep bond = result at keeps
  obtain ⟨named, bonds⟩ := result
  cases named with
  | some peer => exact .kept keeps
  | none =>
    cases keeps with
    | refused new full => exact .refused (.refused new full)

theorem bonds_onBonded (unit : RadioUnit) (bond : Bond) :
    (unit.onBonded bond).bonds = (unit.bonds.keep bond).2 := by
  have keeps := unit.bonds.keep_keeps bond
  unfold onBonded
  generalize unit.bonds.keep bond = result at keeps
  cases keeps <;> rfl

variable {unit : RadioUnit}

/-- The identity addresses of the bonds that are made are fixed. -/
def FixedBonds (moves : List BondMove) : Prop :=
  ∀ bond, .bond bond ∈ moves → bond.identity.address.IsFixed

theorem allFixed_afterBonds (bare : unit.bonds = .empty) {moves : List BondMove}
    (fixed : FixedBonds moves) : (unit.afterBonds moves).bonds.AllFixed := by
  induction moves using List.reverseRecOn with
  | nil =>
    intro slot held holds
    simp [afterBonds, bare, BondTable.empty] at holds
  | append_singleton moves move ih =>
    have before := ih fun bond member => fixed bond (by simp [member])
    rw [afterBonds_concat]
    cases move with
    | bond bond =>
      have own : bond.identity.address.IsFixed := fixed bond (by simp)
      show (onBonded _ bond).bonds.AllFixed
      rw [bonds_onBonded]
      exact before.keep own
    | erase =>
      intro slot held holds
      simp [bondMoved, request, postEvent, BondTable.empty] at holds
    | beside change keeps =>
      show (change _).bonds.AllFixed
      rw [keeps]
      exact before

/-- No device ever has two slots, exactly if no bond matches two. -/
theorem onePerDevice_afterBonds_iff (bare : unit.bonds = .empty) {moves : List BondMove}
    (fixed : FixedBonds moves) :
    (∀ early late, moves = early ++ late → (unit.afterBonds early).bonds.OnePerDevice) ↔
      ∀ early bond late, moves = early ++ .bond bond :: late →
        (unit.afterBonds early).bonds.MatchesOnce bond := by
  constructor
  · intro one early bond late parts
    have before := one early (.bond bond :: late) parts
    have after := one (early ++ [.bond bond]) late (by simp [parts])
    have own : bond.identity.address.IsFixed := fixed bond (by simp [parts])
    rw [afterBonds_concat] at after
    apply (before.keep_iff own).1
    rw [← bonds_onBonded]
    exact after
  · intro once early
    induction early using List.reverseRecOn with
    | nil =>
      intro late parts
      simpa [afterBonds, bare] using onePerDevice_empty
    | append_singleton early move ih =>
      intro late parts
      have before := ih (move :: late) (by simp [parts])
      rw [afterBonds_concat]
      cases move with
      | bond bond =>
        have own : bond.identity.address.IsFixed := fixed bond (by simp [parts])
        show (onBonded _ bond).bonds.OnePerDevice
        rw [bonds_onBonded, before.keep_iff own]
        exact once early bond late (by simp [parts])
      | erase => exact onePerDevice_empty
      | beside change keeps =>
        show (change _).bonds.OnePerDevice
        rw [keeps]
        exact before

/-- No device ever has two slots, exactly if no bond matches two of them when it is made.  Where no
device has two, it is found in its slot by its address, its master identifier and its peer.  A new
bond takes the first slot that it matches, or else the first free one, and leaves all others
alone; where there is neither, nothing changes and nothing is reported. -/
theorem one_bond_per_device (bare : unit.bonds = .empty) (moves : List BondMove)
    (fixed : FixedBonds moves) :
    ((∀ early late, moves = early ++ late → (unit.afterBonds early).bonds.OnePerDevice) ↔
      ∀ early bond late, moves = early ++ .bond bond :: late →
        (unit.afterBonds early).bonds.MatchesOnce bond) ∧
    ((unit.afterBonds moves).bonds.OnePerDevice → (unit.afterBonds moves).bonds.FindsAlike) ∧
    ∀ bond, (unit.afterBonds moves).Takes bond ((unit.afterBonds moves).onBonded bond) := by
  refine ⟨onePerDevice_afterBonds_iff bare fixed, fun one => ?_, fun bond => onBonded_takes _ bond⟩
  exact one.findsAlike (allFixed_afterBonds bare fixed)

section Bench

/-- A bond of a device, which is told by its number. -/
def sampleBond (device : UInt8) (master : UInt16) (key : UInt8) : Bond :=
  ⟨⟨master, .replicate 8 0⟩, ⟨.replicate 16 key⟩,
    ⟨.replicate 16 device, ⟨.publicDevice, .replicate 6 device⟩⟩⟩

/-- Two devices have bonded, and the first has done so again under this master identifier. -/
def bondedAgain (master : UInt16) : List BondMove :=
  [.bond (sampleBond 1 11 1), .bond (sampleBond 2 22 2), .bond (sampleBond 1 master 3)]

theorem fixed_bondedAgain (master : UInt16) : FixedBonds (bondedAgain master) := by
  intro bond member
  have own : bond ∈ [sampleBond 1 11 1, sampleBond 2 22 2, sampleBond 1 master 3] := by
    simpa [bondedAgain] using member
  simp only [List.mem_cons, List.not_mem_nil, or_false] at own
  obtain rfl | rfl | rfl := own <;> exact .inl rfl

/-- A device that bonds again under a new master identifier keeps its slot. -/
theorem device_bonds_again :
    let unit := (RadioUnit.new .powerOff none).afterBonds (bondedAgain 33)
    unit.bonds.OnePerDevice ∧ unit.bonds.FindsAlike ∧
    unit.bonds.bond? (peerOf 0) = some (sampleBond 1 33 3) := by
  intro unit
  have bare : (RadioUnit.new .powerOff none).bonds = .empty := rfl
  obtain ⟨exactly, alike, -⟩ := one_bond_per_device bare (bondedAgain 33) (fixed_bondedAgain 33)
  have one : unit.bonds.OnePerDevice := by
    refine exactly.2 (fun early bond late parts => ?_) _ [] (List.append_nil _).symm
    rcases early with _ | ⟨first, _ | ⟨second, _ | ⟨third, early⟩⟩⟩ <;>
      simp only [bondedAgain, List.nil_append, List.cons_append, List.cons.injEq,
        BondMove.bond.injEq, List.nil_eq, List.append_eq_nil_iff, reduceCtorEq, and_false] at parts
    · rw [← parts.1]
      decide +kernel
    · rw [← parts.1, ← parts.2.1]
      decide +kernel
    · rw [← parts.1, ← parts.2.1, ← parts.2.2.1]
      decide +kernel
  exact ⟨one, alike one, by decide +kernel⟩

/-- A bond that matches two slots leaves both devices under its master identifier.  The second is
no longer found by that, but by its address still. -/
theorem bond_matching_two_slots :
    let bonds := ((RadioUnit.new .powerOff none).afterBonds (bondedAgain 22)).bonds
    bonds.bond? (peerOf 0) = some (sampleBond 1 22 3) ∧
    bonds.bond? (peerOf 1) = some (sampleBond 2 22 2) ∧
    bonds.keyFor? (sampleBond 2 22 2).master = some (sampleBond 1 22 3).key ∧
    bonds.peerShowing? (sampleBond 2 22 2).identity.address = some (peerOf 1) ∧
    ¬bonds.OnePerDevice := by
  intro bonds
  have first : bonds.bond? (peerOf 0) = some (sampleBond 1 22 3) := by decide +kernel
  have second : bonds.bond? (peerOf 1) = some (sampleBond 2 22 2) := by decide +kernel
  refine ⟨first, second, by decide +kernel, by decide +kernel, fun one => ?_⟩
  rw [bond?_peerOf] at first second
  have same := one 0 1 _ _ first second (.inr rfl)
  exact absurd same (by decide)

end Bench

end RadioUnit

end BondedMouse
