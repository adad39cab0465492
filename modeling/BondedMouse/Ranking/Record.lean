import BondedMouse.Ranking.Basic
import BondedMouse.Storage.Record

/-! # The stored form of a ranking

A ranking is stored as nine bytes: a byte for each slot, then a mark of four bytes,
lowest byte first.  Bytes that are not the record of any ranking count as no record,
so reading a ranking back either yields it whole or leaves the present one as it is.
-/

namespace BondedMouse.Ranking

namespace Record

/-- The key of the ranking in the record store. -/
def key : UInt16 := 0xABBA

/-- The mark that ends a record. -/
def mark : UInt32 := 0xAABBCCDD

def markBytes : List UInt8 :=
  [mark.toUInt8, (mark >>> 8).toUInt8, (mark >>> 16).toUInt8, (mark >>> 24).toUInt8]

/-- The number of bytes of a record. -/
def length : Nat := capacity + 4

end Record

/-- The record of a ranking. -/
def encode (ranking : Ranking) : List UInt8 :=
  ranking.slots.toList.map PeerId.slotByte ++ Record.markBytes

/-- No occupied slot stands behind a free one. -/
def compact (slots : List (Option PeerId)) : Bool :=
  (slots.drop (leading slots).length).all (· == none)

/-- The ranking of a record.  Refused are a wrong length or mark, a gap among the peers, and a
peer that stands twice. -/
def decode? (record : List UInt8) : Option Ranking :=
  if h : record.length = Record.length then
    let slots : Vector (Option PeerId) capacity :=
      ⟨((record.take capacity).map PeerId.ofRaw?).toArray, by simp [h, Record.length]⟩
    if record.drop capacity = Record.markBytes ∧ compact slots.toList ∧
        (leading slots.toList).Nodup then
      some ⟨slots⟩
    else
      none
  else
    none

variable {ε : Type} [RecordStore ε]

/-- Writes the record of a ranking. -/
def persist (ranking : Ranking) (env : ε) : Except StorageError Unit × ε :=
  RecordStore.write Record.key ranking.encode env

/-- The room of the buffer that `restore` reads into: one byte more than a record, so that a
longer record shows. -/
def Record.room : Nat := length + 1

/-- The ranking in what a read left in the buffer. -/
def ofReading? (reading : Reading) : Option Ranking :=
  if reading.length ≤ Record.room then decode? (reading.bytes.take reading.length) else none

/-- The stored ranking: the stored one and `true`, or the present one and `false` where the
store has no valid record. -/
def restore (ranking : Ranking) (env : ε) : Except StorageError Bool × Ranking × ε :=
  match RecordStore.read Record.key Record.room env with
  | (.error error, env) => (.error error, ranking, env)
  | (.ok reading, env) =>
    match reading.bind ofReading? with
    | some stored => (.ok true, stored, env)
    | none => (.ok false, ranking, env)

end BondedMouse.Ranking
