import BondedMouse.Radio.Stack
import BondedMouse.Storage.Record

/-! # Platforms

A radio stack and a record store side by side make up a platform: the first component
answers requests to the radio, the second keeps the records, and neither call touches
the other component.
-/

namespace BondedMouse

variable {ρ σ : Type}

instance [RadioStack ρ] : RadioStack (ρ × σ) where
  request request platform :=
    let (result, radio) := RadioStack.request request platform.1
    (result, radio, platform.2)
  nextPeer platform := RadioStack.nextPeer platform.1

instance [RecordStore σ] : RecordStore (ρ × σ) where
  read key room platform :=
    let (result, store) := RecordStore.read key room platform.2
    (result, platform.1, store)
  write key bytes platform :=
    let (result, store) := RecordStore.write key bytes platform.2
    (result, platform.1, store)
  reclaim platform :=
    let (result, store) := RecordStore.reclaim platform.2
    (result, platform.1, store)

end BondedMouse
