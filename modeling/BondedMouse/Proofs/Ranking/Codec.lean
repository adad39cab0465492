import BondedMouse.Proofs.Ranking.Order

/-! # Rankings and their records

A well-formed ranking is read back from its record, and no other bytes are read as a
ranking.  Both directions follow the record through its two parts, the slots and the
mark.
-/

namespace BondedMouse.Ranking

@[simp] theorem length_encode (ranking : Ranking) : ranking.encode.length = Record.length := by
  simp [encode, Record.length, Record.markBytes]

theorem take_encode (ranking : Ranking) :
    ranking.encode.take capacity = ranking.slots.toList.map PeerId.slotByte := by
  simp [encode]

theorem drop_encode (ranking : Ranking) : ranking.encode.drop capacity = Record.markBytes := by
  simp [encode]

theorem map_slotByte_ofRaw? (bytes : List UInt8) :
    (bytes.map PeerId.ofRaw?).map PeerId.slotByte = bytes := by
  simp [Function.comp_def]

theorem map_ofRaw?_slotByte (slots : List (Option PeerId)) :
    (slots.map PeerId.slotByte).map PeerId.ofRaw? = slots := by
  simp [Function.comp_def]

/-- The bytes that are read as a ranking are those of its record, and every well-formed ranking is
read from them. -/
theorem decode?_eq_some_iff {record : List UInt8} {ranking : Ranking} :
    decode? record = some ranking ↔ ranking.WellFormed ∧ record = ranking.encode := by
  constructor
  · intro decoded
    refine ⟨wellFormed_closed.decode decoded, ?_⟩
    simp only [decode?] at decoded
    split at decoded
    · split at decoded
      · next valid =>
        cases decoded
        -- The two parts of the record are the slots' bytes and the mark.
        rw [encode, ← valid.1]
        show record = (_ : List (Option PeerId)).map PeerId.slotByte ++ record.drop capacity
        rw [Vector.toList_mk, map_slotByte_ofRaw?]
        exact (List.take_append_drop capacity record).symm
      · cases decoded
    · cases decoded
  · rintro ⟨formed, rfl⟩
    have slots : (ranking.encode.take capacity).map PeerId.ofRaw? = ranking.slots.toList := by
      rw [take_encode, map_ofRaw?_slotByte]
    have distinct : (leading ranking.slots.toList).Nodup := formed.distinct
    simp only [decode?, length_encode, slots, drop_encode]
    simp [formed.compact, distinct]
    rfl

end BondedMouse.Ranking
