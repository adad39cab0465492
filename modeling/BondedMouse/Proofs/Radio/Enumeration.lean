import BondedMouse.Proofs.Controller.Windows
import BondedMouse.Proofs.Radio.Bonds
import BondedMouse.Proofs.Timer.Pool

/-! # From the registry to the radio's lists

The controller reads the registry with a cursor, to collect a whitelist and to look for
a peer.  Neither loop counts its rounds.  They end because the registry yields its peers
by ascending slots, whatever slots are free; and a registry has no more slots than a
whitelist has room for, so the whitelist is never truncated.

The radio unit makes two lists of a whitelist, one of addresses and one of identities.
Both leave out the peers without a bond, so the two name the same devices in the same
order.  A window for the whole registry pushes the lists of all bonds.
-/

namespace BondedMouse

open Controller

/-! ## Loops over a registry -/

namespace Registry

/-- The loop that collects the peers behind a cursor ends with a whitelist, which is truncated if it
has no room for the next peer. -/
inductive Loads (next : Option PeerId → Option PeerId) :
    Option PeerId → List PeerId → List PeerId × Bool → Prop
  | ended {cursor : Option PeerId} {loaded : List PeerId} (exhausted : next cursor = none) :
      Loads next cursor loaded (loaded, false)
  | full {cursor : Option PeerId} {peer : PeerId} {loaded : List PeerId}
      (yielded : next cursor = some peer) (full : whitelistMax ≤ loaded.length) :
      Loads next cursor loaded (loaded, true)
  | pushed {cursor : Option PeerId} {peer : PeerId} {loaded : List PeerId}
      {outcome : List PeerId × Bool} (yielded : next cursor = some peer)
      (room : loaded.length < whitelistMax)
      (rest : Loads next (some peer) (loaded ++ [peer]) outcome) : Loads next cursor loaded outcome

/-- The loop that looks for a peer behind a cursor ends with an answer. -/
inductive Searches (next : Option PeerId → Option PeerId) (wanted : PeerId) :
    Option PeerId → Bool → Prop
  | ended {cursor : Option PeerId} (exhausted : next cursor = none) :
      Searches next wanted cursor false
  | found {cursor : Option PeerId} (yielded : next cursor = some wanted) :
      Searches next wanted cursor true
  | passed {cursor : Option PeerId} {peer : PeerId} {found : Bool}
      (yielded : next cursor = some peer) (other : peer ≠ wanted)
      (rest : Searches next wanted (some peer) found) : Searches next wanted cursor found

variable {next : Option PeerId → Option PeerId} {cursor : Option PeerId} {peers : List PeerId}

/-- The loop ends, with all peers. -/
theorem loads_iff {loaded : List PeerId} {outcome : List PeerId × Bool}
    (yields : Yields next cursor peers) (room : loaded.length + peers.length ≤ whitelistMax) :
    Loads next cursor loaded outcome ↔ outcome = (loaded ++ peers, false) := by
  induction peers generalizing cursor loaded with
  | nil =>
    have none : next cursor = none := yields
    rw [List.append_nil]
    constructor
    · intro loads
      cases loads with
      | ended => rfl
      | full yielded | pushed yielded => simp [none] at yielded
    · rintro rfl
      exact .ended none
  | cons peer peers ih =>
    obtain ⟨first, others⟩ := yields
    rw [List.length_cons] at room
    have left : loaded.length < whitelistMax := by omega
    have behind : (loaded ++ [peer]).length + peers.length ≤ whitelistMax := by
      rw [List.length_append, List.length_singleton]
      omega
    have rest := ih others behind
    rw [List.append_assoc, List.singleton_append] at rest
    rw [← rest]
    constructor
    · intro loads
      cases loads with
      | ended none => simp [first] at none
      | full _ full => omega
      | pushed yielded _ rest =>
        obtain rfl := Option.some.inj (first.symm.trans yielded)
        exact rest
    · exact fun rest => .pushed first left rest

/-- The loop ends, and has found the peer if it is among those that are yielded. -/
theorem searches_iff {wanted : PeerId} {found : Bool} (yields : Yields next cursor peers) :
    Searches next wanted cursor found ↔ found = decide (wanted ∈ peers) := by
  induction peers generalizing cursor found with
  | nil =>
    have none : next cursor = none := yields
    constructor
    · intro searches
      cases searches with
      | ended => rfl
      | found yielded | passed yielded => simp [none] at yielded
    · rintro rfl
      exact .ended none
  | cons peer peers ih =>
    obtain ⟨first, others⟩ := yields
    constructor
    · intro searches
      cases searches with
      | ended none => simp [first] at none
      | found yielded =>
        obtain rfl := Option.some.inj (first.symm.trans yielded)
        simp
      | passed yielded other rest =>
        obtain rfl := Option.some.inj (first.symm.trans yielded)
        rw [(ih others).1 rest]
        simp [Ne.symm other]
    · rintro rfl
      by_cases same : peer = wanted
      · subst same
        simpa using .found first
      · have rest : Searches next wanted (some peer) (decide (wanted ∈ peers)) := (ih others).2 rfl
        simpa [Ne.symm same] using .passed first same rest

end Registry

/-! ## Bonded peers and their bonds -/

namespace BondTable

theorem length_peers_le (table : BondTable) : table.peers.length ≤ capacity := by
  have filtered := List.length_filter_le (fun slot : Fin capacity => (table.slots[slot]).isSome)
    (List.finRange capacity)
  rwa [List.length_finRange, ← List.length_map peerOf] at filtered

theorem pairwise_peers (table : BondTable) : table.peers.Pairwise (·.raw < ·.raw) := by
  have ascending : (List.finRange capacity).Pairwise fun slot other =>
      (peerOf slot).raw < (peerOf other).raw := by decide
  exact List.pairwise_map.2 (ascending.filter _)

/-- The bonds of the bonded peers are the bonds of the registry. -/
theorem filterMap_bond?_peers (table : BondTable) :
    table.peers.filterMap table.bond? = table.toList := by
  have slots : table.slots.toList = (List.finRange capacity).map fun slot => table.slots[slot] := by
    apply List.ext_getElem <;> simp
  rw [toList, slots, peers, List.filterMap_map, List.filterMap_map, List.filterMap_filter]
  refine List.filterMap_congr fun slot _ => ?_
  cases held : table.slots[slot] <;> simp [held, -Fin.getElem_fin]

/-- There are no more peers with a bond than slots. -/
theorem length_bonded_le (table : BondTable) {peers : List PeerId} (distinct : peers.Nodup) :
    (peers.filter (table.Has ·)).length ≤ capacity := by
  have known : peers.filter (table.Has ·) ⊆ table.peers := by
    intro peer member
    exact mem_peers_iff.2 (of_decide_eq_true (List.mem_filter.1 member).2)
  exact Nat.le_trans ((distinct.filter _).subperm known).length_le table.length_peers_le

/-- The peers with a bond are those of which something is held. -/
theorem filter_has_eq {α : Type} (table : BondTable) (peers : List PeerId) (item : Bond → α) :
    peers.filter (table.Has ·) = peers.filter fun peer => ((table.bond? peer).map item).isSome := by
  refine List.filter_congr fun peer _ => ?_
  rw [Bool.eq_iff_iff, decide_eq_true_iff, Option.isSome_map]
  rfl

def identity? (table : BondTable) (peer : PeerId) : Option Identity :=
  (table.bond? peer).map Bond.identity

def address? (table : BondTable) (peer : PeerId) : Option Address :=
  (table.bond? peer).map (·.identity.address)

end BondTable

/-- The loops over the registry end; they see each peer with a bond once, in the order of the slots,
and no other. -/
structure Registry.Exact {ε : Type} [RadioStack ε] (env : ε) (table : BondTable) : Prop where
  loaded : ∀ outcome, Loads (RadioStack.nextPeer env) none [] outcome ↔ outcome = (table.peers, false)
  whitelist : Registry.whitelist env = table.peers
  ascending : table.peers.Pairwise (·.raw < ·.raw)
  complete : ∀ peer, peer ∈ table.peers ↔ table.Has peer
  searched : ∀ peer found,
    Searches (RadioStack.nextPeer env) peer none found ↔ found = decide (table.Has peer)
  enumerates : ∀ peer, Registry.enumerates env peer = decide (table.Has peer)

theorem Registry.Exact.of_platform {σ : Type} (platform : RadioUnit × σ) :
    Exact platform platform.1.bonds := by
  have yields : Yields (RadioStack.nextPeer platform) none platform.1.bonds.peers :=
    platform.1.bonds.yields_peers
  have bound := platform.1.bonds.length_peers_le
  constructor
  case loaded =>
    intro outcome
    refine loads_iff yields ?_
    rwa [List.length_nil, Nat.zero_add]
  case whitelist =>
    rw [Registry.whitelist, walk_of_yields yields]
    exact List.take_of_length_le bound
  case ascending => exact platform.1.bonds.pairwise_peers
  case complete => exact fun _ => BondTable.mem_peers_iff
  case searched =>
    intro peer found
    simp only [searches_iff yields, BondTable.mem_peers_iff]
  case enumerates =>
    intro peer
    rw [Bool.eq_iff_iff, enumerates_iff_has, decide_eq_true_iff]

/-! ## Lists for the radio firmware -/

namespace RawList

variable {α : Type} {items : List α}

theorem toNat_count_of (fits : items.length < 256) : (of items).count.toNat = items.length :=
  Nat.mod_eq_of_lt fits

theorem start_of_eq_none_iff : (of items).start = none ↔ items = [] := by
  cases items <;> simp [of]

theorem read_of (fits : items.length < 256) : (of items).read = items := by
  rw [read, toNat_count_of fits]
  cases items <;> simp [of]

/-- A list has one item for each of some peers, in their order; it is told how many, and that there
are none by a null pointer. -/
structure Holds (list : RawList α) (item? : PeerId → Option α) (peers : List PeerId) : Prop where
  items : list.read.map some = peers.map item?
  count : list.count.toNat = peers.length
  start : list.start = none ↔ peers = []

/-- The items of some peers are those of the ones that have an item. -/
theorem map_some_filterMap (item? : PeerId → Option α) (peers : List PeerId) :
    (peers.filterMap item?).map some =
      (peers.filter fun peer => (item? peer).isSome).map item? := by
  induction peers with
  | nil => rfl
  | cons peer peers ih => cases held : item? peer <;> simpa [held] using ih

theorem holds_of {item? : PeerId → Option α} {peers : List PeerId}
    (fits : (peers.filter fun peer => (item? peer).isSome).length < 256) :
    (of (peers.filterMap item?)).Holds item? (peers.filter fun peer => (item? peer).isSome) := by
  have items := map_some_filterMap item? peers
  have length := congrArg List.length items
  rw [List.length_map, List.length_map] at length
  constructor
  case items => rwa [read_of (length ▸ fits)]
  case count => rwa [toNat_count_of (length ▸ fits)]
  case start => rw [start_of_eq_none_iff, ← List.length_eq_zero_iff, length, List.length_eq_zero_iff]

end RawList

namespace RadioUnit

/-- What the radio unit hands to the hardware for a whitelist: two lists of the same bonds, those of
the whitelist's peers that have one. -/
structure HandsOver (unit : RadioUnit) (whitelist bonded : List PeerId) : Prop where
  addresses : (unit.addressList whitelist).Holds unit.bonds.address? bonded
  identities : (unit.identityList whitelist).Holds unit.bonds.identity? bonded
  fits : bonded.length ≤ Registry.whitelistMax
  whitelistCall : (unit.request (.whitelist whitelist)).2.board.calls =
    unit.board.calls ++ [.whitelist (unit.addressList whitelist).read]
  identitiesCall : (unit.request (.identities whitelist)).2.board.calls =
    unit.board.calls ++ [.identities (unit.identityList whitelist).read]

theorem handsOver (unit : RadioUnit) {whitelist : List PeerId} (distinct : whitelist.Nodup) :
    unit.HandsOver whitelist (whitelist.filter (unit.bonds.Has ·)) := by
  have few : (whitelist.filter (unit.bonds.Has ·)).length ≤ BondTable.capacity :=
    unit.bonds.length_bonded_le distinct
  have small : (whitelist.filter (unit.bonds.Has ·)).length < 256 :=
    Nat.lt_of_le_of_lt few (by decide)
  constructor
  case addresses =>
    have listed : (unit.identities whitelist).map Identity.address =
        whitelist.filterMap unit.bonds.address? := by
      rw [identities, List.map_filterMap]
      simp only [Option.map_map]
      rfl
    rw [addressList, listed]
    rw [unit.bonds.filter_has_eq whitelist (·.identity.address)] at small ⊢
    exact RawList.holds_of small
  case identities =>
    rw [unit.bonds.filter_has_eq whitelist Bond.identity] at small ⊢
    exact RawList.holds_of small
  case fits => exact few
  case whitelistCall => rfl
  case identitiesCall => rfl

theorem identities_peers (unit : RadioUnit) :
    unit.identities unit.bonds.peers = unit.bonds.toList.map Bond.identity := by
  rw [identities, ← List.map_filterMap, unit.bonds.filterMap_bond?_peers]

theorem length_identities_peers (unit : RadioUnit) :
    (unit.identities unit.bonds.peers).length < 256 := by
  have listed : (unit.identities unit.bonds.peers).length ≤ unit.bonds.peers.length :=
    List.length_filterMap_le _ _
  exact Nat.lt_of_le_of_lt (Nat.le_trans listed unit.bonds.length_peers_le) (by decide)

theorem read_identityList_peers (unit : RadioUnit) :
    (unit.identityList unit.bonds.peers).read = unit.bonds.toList.map Bond.identity := by
  rw [identityList, RawList.read_of unit.length_identities_peers, identities_peers]

theorem read_addressList_peers (unit : RadioUnit) :
    (unit.addressList unit.bonds.peers).read = unit.bonds.toList.map (·.identity.address) := by
  have small := unit.length_identities_peers
  rw [← List.length_map Identity.address] at small
  rw [addressList, RawList.read_of small, identities_peers, List.map_map]
  rfl

/-- The call to the hardware that a request makes at once, if it is one to open a window. -/
def call? (unit : RadioUnit) : RadioRequest → Option BoardCall
  | .whitelist peers => some (.whitelist (unit.addressList peers).read)
  | .identities peers => some (.identities (unit.identityList peers).read)
  | .disconnect link => some (.disconnect link.number userEnded)
  | .start _ _ | .stop | .forgetBonds | .movement _ _ => none

end RadioUnit

/-- The request is one of those that open a window. -/
def RadioRequest.opens : RadioRequest → Bool
  | .whitelist _ | .identities _ | .start _ _ | .stop | .disconnect _ => true
  | .forgetBonds | .movement _ _ => false

namespace RadioUnit

theorem call?_congr {unit other : RadioUnit} (same : other.bonds = unit.bonds) :
    other.call? = unit.call? := by
  funext request
  cases request <;> simp [call?, addressList, identityList, identities, same]

theorem request_notes (unit : RadioUnit) {request : RadioRequest} (opens : request.opens = true) :
    (unit.request request).2.board.calls = unit.board.calls ++ (unit.call? request).toList ∧
      (unit.request request).2.call? = unit.call? := by
  have keeps : request ≠ .forgetBonds := by
    rintro rfl
    cases opens
  refine ⟨?_, call?_congr (unit.request_sameBonds keeps).bonds⟩
  cases request with
  | whitelist | identities | disconnect => rfl
  | start | stop =>
    simp only [request, postCommand]
    split <;> exact (List.append_nil _).symm
  | forgetBonds | movement => cases opens

end RadioUnit

section Rows

variable {σ : Type} {requests : List RadioRequest} {env last : RadioUnit × σ}

/-- The calls of an answered row are those of its requests. -/
theorem Answers.notes (answers : Answers requests env last)
    (opens : ∀ request ∈ requests, request.opens = true) :
    last.1.board.calls = env.1.board.calls ++ requests.filterMap env.1.call? := by
  induction answers with
  | done => simp
  | @next request requests env last answered rest ih =>
    obtain ⟨own, others⟩ := List.forall_mem_cons.1 opens
    obtain ⟨noted, same⟩ := env.1.request_notes own
    have behind : last.1.board.calls = (env.1.request request).2.board.calls ++
        requests.filterMap (env.1.request request).2.call? := ih others
    rw [behind, noted, same, List.append_assoc]
    cases called : env.1.call? request <;> simp [called]

/-- A refused row has made some of the calls. -/
theorem Refuses.notes {error : StackError} (refuses : Refuses requests error env last)
    (opens : ∀ request ∈ requests, request.opens = true) :
    last.1.board.calls <+: env.1.board.calls ++ requests.filterMap env.1.call? := by
  induction refuses with
  | @here request requests error env refused =>
    obtain ⟨own, -⟩ := List.forall_mem_cons.1 opens
    obtain ⟨noted, -⟩ := env.1.request_notes own
    change (env.1.request request).2.board.calls <+: _
    rw [noted]
    cases called : env.1.call? request <;> simp [called]
  | @later request requests error env last answered rest ih =>
    obtain ⟨own, others⟩ := List.forall_mem_cons.1 opens
    obtain ⟨noted, same⟩ := env.1.request_notes own
    have behind : last.1.board.calls <+: (env.1.request request).2.board.calls ++
        requests.filterMap (env.1.request request).2.call? := ih others
    rw [noted, same, List.append_assoc] at behind
    cases called : env.1.call? request <;> simpa [called] using behind

/-- The calls of an operation that opens a window: all of them if it succeeds. -/
theorem Asks.notes {device target : Device (RadioUnit × σ)}
    {result : EStateM.Result Fault (Device (RadioUnit × σ)) Unit}
    (asks : Asks requests device target result)
    (opens : ∀ request ∈ requests, request.opens = true) :
    let calls := device.env.1.board.calls ++ requests.filterMap device.env.1.call?
    (∀ after, result = .ok () after → after.env.1.board.calls = calls) ∧
      (final result).env.1.board.calls <+: calls := by
  intro calls
  cases asks with
  | @answered env answers =>
    have made : env.1.board.calls = calls := answers.notes opens
    constructor
    · intro after ended
      cases ended
      exact made
    · exact ⟨[], (List.append_nil _).trans made⟩
  | @refused _ _ _ _ env refuses =>
    have made : env.1.board.calls <+: calls := refuses.notes opens
    exact ⟨fun _ ended => (nomatch ended), made⟩

end Rows

/-! ## Windows for the registry -/

/-- The calls that push all bonds. -/
def BondTable.pushCalls (table : BondTable) : List BoardCall := [
  .whitelist (table.toList.map (·.identity.address)),
  .identities (table.toList.map Bond.identity)]

def Link.dropCalls : Link → List BoardCall
  | .up handle => [.disconnect handle.number RadioUnit.userEnded]
  | .down | .closing _ => []

/-- A change to the mode opens a window for the whole registry. -/
def Mode.OpensRegistry (mode : Mode) (target : Option PeerId) : Prop :=
  mode = .scan ∨ mode = .anyBonded ∨ mode = .directed ∧ target = none

namespace Device

variable {ε : Type}

theorem opens_openingRequests (device : Device ε) {request : RadioRequest}
    (member : request ∈ device.openingRequests) : request.opens = true := by
  obtain ⟨controller, timers, env⟩ := device
  unfold openingRequests stopRequests startRequests Link.dropRequests silenced at member
  grind [RadioRequest.opens]

variable [RadioStack ε]

theorem whitelist_forScan (device : Device ε) :
    device.forScan.whitelist = Registry.whitelist device.env := by
  unfold forScan
  dsimp only
  split
  · next empty => exact (List.isEmpty_iff.1 empty).symm
  · rfl

theorem whitelist_forAnyBonded (device : Device ε) :
    device.forAnyBonded.whitelist = Registry.whitelist device.env := by
  unfold forAnyBonded
  dsimp only
  split
  · next empty => exact (List.isEmpty_iff.1 empty).symm
  · rfl

end Device

theorem Controller.setMode_whitelists {ε : Type} [RadioStack ε] {mode : Mode} {target : Option PeerId}
    (device : Device ε) (registry : mode.OpensRegistry target) :
    ∃ described, Describes device described ∧ described.whitelist = Registry.whitelist device.env ∧
      setMode mode target device = putInForce described := by
  obtain rfl | rfl | ⟨rfl, rfl⟩ := registry
  · exact ⟨_, .scan device, device.whitelist_forScan, openScan_apply device⟩
  · exact ⟨_, .anyBonded device, device.whitelist_forAnyBonded, openAnyBonded_apply device⟩
  · exact ⟨_, .counted_scan device, device.counted.whitelist_forScan, openScan_apply device.counted⟩

section Devices

variable {σ : Type}

theorem Device.calls_openingRequests {device : Device (RadioUnit × σ)}
    (registry : device.whitelist = device.env.1.bonds.peers) :
    device.openingRequests.filterMap device.env.1.call? =
      device.env.1.bonds.pushCalls ++ device.link.dropCalls := by
  have stops : device.stopRequests.filterMap device.env.1.call? = [] := by
    unfold stopRequests
    split <;> rfl
  have starts : device.silenced.startRequests.filterMap device.env.1.call? =
      device.link.dropCalls := by
    have link : device.silenced.link = device.link := rfl
    unfold startRequests
    rw [link]
    cases up : device.link with
    | up handle => rfl
    | closing handle => rfl
    | down =>
      rw [if_pos rfl]
      split <;> rfl
  have pushes : [.whitelist device.whitelist, .identities device.whitelist].filterMap
      device.env.1.call? = device.env.1.bonds.pushCalls := by
    rw [registry]
    simp [RadioUnit.call?, BondTable.pushCalls, RadioUnit.read_addressList_peers,
      RadioUnit.read_identityList_peers]
  rw [openingRequests, List.filterMap_append, List.filterMap_append, stops, starts, pushes,
    List.nil_append]

/-- A window for the registry pushes all bonds, and drops the link that is in the way; if a request
is refused, the calls behind it are missing. -/
theorem Controller.setMode_pushes (device : Device (RadioUnit × σ)) {mode : Mode}
    {target : Option PeerId} (registry : mode.OpensRegistry target) :
    let unit := device.env.1
    let calls := unit.board.calls ++ (unit.bonds.pushCalls ++ device.link.dropCalls)
    (∀ after, setMode mode target device = .ok () after → after.env.1.board.calls = calls) ∧
      (final (setMode mode target device)).env.1.board.calls <+: calls := by
  intro unit calls
  obtain ⟨described, describes, whitelisted, opens⟩ := setMode_whitelists device registry
  have env : described.env = device.env := describes.env
  have peers : described.whitelist = described.env.1.bonds.peers := by
    rw [whitelisted, env]
    exact (Registry.Exact.of_platform device.env).whitelist
  have made := (putInForce_asks described).notes fun _ => described.opens_openingRequests
  rw [Device.calls_openingRequests peers, env, describes.link] at made
  rw [opens]
  exact made

/-- The registry is read and pushed as it stands, whatever slots are free.  The loops over it end
with its peers; of any whitelist without repeats, the hardware is handed the addresses and the
identities of those peers that have a bond; and a window for the registry pushes those of all
bonds. -/
theorem registry_is_read_and_pushed_in_full (device : Device (RadioUnit × σ))
    (whitelist : List PeerId) (distinct : whitelist.Nodup) (mode : Mode) (target : Option PeerId)
    (registry : mode.OpensRegistry target) :
    let unit := device.env.1
    let calls := unit.board.calls ++ (unit.bonds.pushCalls ++ device.link.dropCalls)
    Registry.Exact device.env unit.bonds ∧
    unit.HandsOver whitelist (whitelist.filter (unit.bonds.Has ·)) ∧
    (∀ after, setMode mode target device = .ok () after → after.env.1.board.calls = calls) ∧
    (final (setMode mode target device)).env.1.board.calls <+: calls :=
  ⟨.of_platform device.env, device.env.1.handsOver distinct, setMode_pushes device registry⟩

/-- A device whose registry holds two bonds with a free slot between them. -/
def withFreeSlot (first second : Bond) : Device (RadioUnit × Unit) where
  toController := .idle .empty .first
  timers := .idle
  env := ({ RadioUnit.new .powerOff none with
    bonds := ⟨.ofFn fun slot => match slot.val with
      | 0 => some first
      | 2 => some second
      | _ => none⟩ }, ())

/-- Behind a free slot, a peer is still found and pushed. -/
theorem registry_with_free_slot_is_pushed :
    let bond (number : UInt8) : Bond := ⟨⟨0, .replicate 8 0⟩, ⟨.replicate 16 0⟩,
      ⟨.replicate 16 number, ⟨.publicDevice, .replicate 6 number⟩⟩⟩
    let device := withFreeSlot (bond 1) (bond 2)
    let peers := [BondTable.peerOf 2, BondTable.peerOf 1, BondTable.peerOf 0]
    let opened := final (setMode .scan none device)
    peers.Nodup ∧ Mode.scan.OpensRegistry none ∧
    Registry.Searches (RadioStack.nextPeer device.env) (.mk 2 (by decide)) none true ∧
    (device.env.1.addressList peers).read = [(bond 2).identity.address, (bond 1).identity.address] ∧
    opened.env.1.board.calls = [
      .whitelist [(bond 1).identity.address, (bond 2).identity.address],
      .identities [(bond 1).identity, (bond 2).identity]] := by
  intro bond device peers opened
  have distinct : peers.Nodup := by decide
  have registry : Mode.scan.OpensRegistry none := .inl rfl
  obtain ⟨reads, hands, pushes, -⟩ :=
    registry_is_read_and_pushed_in_full device peers distinct .scan none registry
  have ended : setMode .scan none device = .ok () opened := rfl
  refine ⟨distinct, registry, ?_, ?_, ?_⟩
  · rw [reads.searched]
    decide
  · have held := hands.addresses.items
    apply (List.map_inj_right fun _ _ => Option.some.inj).1
    rw [held]
    decide
  · rw [pushes opened ended]
    decide

end Devices

end BondedMouse
