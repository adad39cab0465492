/-! # Bounded channels

A channel is a queue with a fixed depth.  Sending into a full channel is refused.
-/

namespace BondedMouse

structure Channel (α : Type) (depth : Nat) where
  /-- What waits, the oldest first. -/
  items : List α
  length_le : items.length ≤ depth

namespace Channel

variable {α : Type} {depth : Nat}

def empty : Channel α depth := ⟨[], Nat.zero_le _⟩

/-- The channel with one more item; `none` if it is full. -/
def send? (channel : Channel α depth) (item : α) : Option (Channel α depth) :=
  if h : channel.items.length < depth then
    some ⟨channel.items ++ [item], by rw [List.length_append]; exact h⟩
  else
    none

theorem send?_eq_some_iff {channel result : Channel α depth} {item : α} :
    channel.send? item = some result ↔ result.items = channel.items ++ [item] := by
  obtain ⟨items, bound⟩ := result
  unfold send?
  constructor
  · intro sent
    split at sent
    · exact (congrArg Channel.items (Option.some.inj sent)).symm
    · cases sent
  · intro appended
    subst appended
    have room : channel.items.length < depth := by
      rw [List.length_append] at bound
      exact bound
    rw [dif_pos room]

theorem send?_eq_none_iff {channel : Channel α depth} {item : α} :
    channel.send? item = none ↔ channel.items.length = depth := by
  have bound := channel.length_le
  unfold send?
  split
  · next room => simp [Nat.ne_of_lt room]
  · next full => simp [Nat.le_antisymm bound (Nat.not_lt.1 full)]

/-- Sends an item, which is lost if the channel is full. -/
def sendOrDrop (channel : Channel α depth) (item : α) : Channel α depth :=
  (channel.send? item).getD channel

theorem items_sendOrDrop (channel : Channel α depth) (item : α) :
    (channel.sendOrDrop item).items = (channel.items ++ [item]).take depth := by
  unfold sendOrDrop
  cases sent : channel.send? item with
  | none =>
    have full := send?_eq_none_iff.1 sent
    simp [← full]
  | some result =>
    have appended := send?_eq_some_iff.1 sent
    have bound := result.length_le
    rw [appended] at bound
    simp only [Option.getD_some, appended]
    exact (List.take_of_length_le bound).symm

def receive? (channel : Channel α depth) : Option (α × Channel α depth) :=
  match channel with
  | ⟨[], _⟩ => none
  | ⟨item :: rest, h⟩ => some (item, ⟨rest, Nat.le_of_succ_le h⟩)

theorem receive?_eq_some_iff {channel rest : Channel α depth} {item : α} :
    channel.receive? = some (item, rest) ↔ channel.items = item :: rest.items := by
  obtain ⟨items, bound⟩ := channel
  obtain ⟨others, _⟩ := rest
  cases items with
  | nil => simp [receive?]
  | cons first remaining => simp [receive?]

theorem receive?_eq_none_iff {channel : Channel α depth} :
    channel.receive? = none ↔ channel.items = [] := by
  obtain ⟨items, bound⟩ := channel
  cases items with
  | nil => simp [receive?]
  | cons first remaining => simp [receive?]

theorem exists_receive? {channel : Channel α depth} {item : α} {rest : List α}
    (items : channel.items = item :: rest) :
    ∃ others : Channel α depth, channel.receive? = some (item, others) ∧ others.items = rest := by
  have bound := channel.length_le
  rw [items] at bound
  exact ⟨⟨rest, Nat.le_of_succ_le bound⟩, receive?_eq_some_iff.2 items, rfl⟩

theorem length_of_receive? {channel rest : Channel α depth} {item : α}
    (h : channel.receive? = some (item, rest)) :
    channel.items.length = rest.items.length + 1 := by
  rw [receive?_eq_some_iff.1 h, List.length_cons]

/-- Up to a number of items, oldest first, and the rest. -/
def takeUpTo : (limit : Nat) → Channel α depth → List α × Channel α depth
  | 0, channel => ([], channel)
  | limit + 1, channel =>
    match channel.receive? with
    | none => ([], channel)
    | some (item, rest) =>
      let (items, rest) := takeUpTo limit rest
      (item :: items, rest)

end Channel

end BondedMouse
