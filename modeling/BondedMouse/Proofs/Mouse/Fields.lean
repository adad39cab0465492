import BondedMouse.Mouse.Report
import Mathlib.Algebra.Group.Nat.Defs
import Mathlib.Data.Set.Function

/-! # The fields of a report

Whoever receives a report reads it as a number of 24 bits, lowest byte first, and takes
two signed fields of twelve bits from it.  The three bytes of a movement are the digits
of such a number, in which the field of Y stands above that of X; the middle byte holds
the lowest four bits of the one and the highest four of the other.  So each field reads
back as its own delta was clamped.
-/

namespace BondedMouse.Movement

/-! ## Reading a report -/

/-- The report as one number, its first byte lowest. -/
def wire (report : Vector UInt8 3) : Nat :=
  report[0].toNat + 2 ^ 8 * report[1].toNat + 2 ^ 16 * report[2].toNat

/-- The twelve bits from a bit on, in two's complement. -/
def signedField (report : Vector UInt8 3) (start : Nat) : Int :=
  (BitVec.ofNat 12 (wire report >>> start)).toInt

def readX (report : Vector UInt8 3) : Int :=
  signedField report 0

def readY (report : Vector UInt8 3) : Int :=
  signedField report 12

theorem signedField_eq (report : Vector UInt8 3) (start : Nat) :
    signedField report start = ((wire report / 2 ^ start : Nat) : Int).bmod 4096 := by
  rw [signedField, BitVec.toInt_ofNat', Nat.shiftRight_eq_div_pow]

/-- A signed field holds its bits up to whole turns. -/
theorem signedField_emod (report : Vector UInt8 3) (start : Nat) :
    signedField report start % 4096 = (wire report / 2 ^ start : Nat) % 4096 := by
  rw [signedField_eq]
  exact Int.bmod_emod

theorem signedField_bounds (report : Vector UInt8 3) (start : Nat) :
    -2048 ≤ signedField report start ∧ signedField report start < 2048 := by
  rw [signedField_eq]
  exact ⟨Int.le_bmod (by decide), Int.bmod_lt (by decide)⟩

/-- The bytes are the digits of the number. -/
theorem wire_injective : Function.Injective wire := by
  intro report other same
  have first := report[0].toNat_lt
  have second := report[1].toNat_lt
  have first' := other[0].toNat_lt
  have second' := other[1].toNat_lt
  unfold wire at same
  ext place inside
  obtain rfl | rfl | rfl : place = 0 ∨ place = 1 ∨ place = 2 := by omega
  all_goals omega

theorem wire_lt (report : Vector UInt8 3) : wire report < 4096 * 4096 := by
  have first := report[0].toNat_lt
  have second := report[1].toNat_lt
  have third := report[2].toNat_lt
  unfold wire
  omega

/-- A report has nothing besides its two fields. -/
theorem eq_of_fields {report other : Vector UInt8 3} (x : readX report = readX other)
    (y : readY report = readY other) : report = other := by
  have small := wire_lt report
  have small' := wire_lt other
  have low := signedField_emod report 0
  have low' := signedField_emod other 0
  have high := signedField_emod report 12
  have high' := signedField_emod other 12
  apply wire_injective
  unfold readX at x
  unfold readY at y
  omega

/-! ## Clamping -/

/-- The number in the range of a signed field that is nearest to a number. -/
def nearest (delta : Int) : Int :=
  max (-2048) (min delta 2047)

theorem nearest_of_bounds {delta : Int} (low : -2048 ≤ delta) (high : delta < 2048) :
    nearest delta = delta := by
  unfold nearest
  omega

/-- A number that is congruent to a clamped one reads as that. -/
theorem bmod_nearest {number delta : Int} (congruent : number % 4096 = nearest delta % 4096) :
    number.bmod 4096 = nearest delta := by
  unfold nearest at *
  rw [Int.bmod_def]
  split <;> omega

theorem toInt_clamp (delta : Int16) : (clamp delta).toInt = nearest delta.toInt := by
  have lowest : (-2048 : Int16).toInt = -2048 := rfl
  have highest : (2047 : Int16).toInt = 2047 := rfl
  unfold clamp nearest
  split
  · next below =>
    rw [Int16.lt_iff_toInt_lt, lowest] at below
    omega
  · next inside =>
    rw [Int16.lt_iff_toInt_lt, lowest] at inside
    split
    · next above =>
      rw [Int16.lt_iff_toInt_lt, highest] at above
      omega
    · next within =>
      rw [Int16.lt_iff_toInt_lt, highest] at within
      omega

theorem toNat_field (delta : Int16) :
    ((field delta).toNat : Int) = nearest delta.toInt % 4096 := by
  have bits : (field delta).toNat = (clamp delta).toBitVec.toNat % 4096 :=
    Nat.and_two_pow_sub_one_eq_mod _ 12
  have signed : (clamp delta).toInt = ((clamp delta).toBitVec.toNat : Int).bmod 65536 :=
    BitVec.toInt_eq_toNat_bmod _
  rw [bits, ← toInt_clamp, signed, Int.natCast_emod, Int.bmod_def]
  split <;> omega

theorem toNat_field_lt (delta : Int16) : (field delta).toNat < 4096 := by
  have residue := toNat_field delta
  omega

/-! ## Packing -/

/-- A mask and a shift take some bits out of the middle of a number. -/
theorem toNat_masked_shiftRight (number mask start : UInt16) (width : Nat)
    (ones : mask.toNat = (2 ^ width - 1) * 2 ^ start.toNat) (inside : start.toNat < 16) :
    ((number &&& mask) >>> start).toNat = number.toNat / 2 ^ start.toNat % 2 ^ width := by
  rw [UInt16.toNat_shiftRight, UInt16.toNat_and, Nat.mod_eq_of_lt inside,
    Nat.shiftRight_and_distrib, ones, Nat.shiftRight_eq_div_pow, Nat.shiftRight_eq_div_pow,
    Nat.mul_div_cancel _ (Nat.two_pow_pos _), Nat.and_two_pow_sub_one_eq_mod]

section Bytes

variable (movement : Movement)

theorem toNat_pack_first : movement.pack[0].toNat = (field movement.dx).toNat % 256 := by
  change (field movement.dx &&& 0x00FF).toUInt8.toNat = _
  have low : (field movement.dx &&& 0x00FF).toNat = (field movement.dx).toNat % 256 :=
    Nat.and_two_pow_sub_one_eq_mod _ 8
  rw [UInt16.toNat_toUInt8, low, Nat.mod_mod]

/-- The byte that the fields share. -/
theorem toNat_pack_middle :
    movement.pack[1].toNat =
      16 * ((field movement.dy).toNat % 16) + (field movement.dx).toNat / 256 := by
  have small := toNat_field_lt movement.dx
  change ((field movement.dy &&& 0x000F) <<< 4 |||
    (field movement.dx &&& 0x0F00) >>> 8).toUInt8.toNat = _
  have ofX : ((field movement.dx &&& 0x0F00) >>> 8).toNat = (field movement.dx).toNat / 256 := by
    rw [toNat_masked_shiftRight _ 0x0F00 8 4 rfl (by decide)]
    change (field movement.dx).toNat / 256 % 16 = _
    omega
  have ofY : ((field movement.dy &&& 0x000F) <<< 4).toNat =
      2 ^ 4 * ((field movement.dy).toNat % 16) := by
    have low : (field movement.dy &&& 0x000F).toNat = (field movement.dy).toNat % 16 :=
      Nat.and_two_pow_sub_one_eq_mod _ 4
    rw [UInt16.toNat_shiftLeft, low, Nat.shiftLeft_eq]
    change (field movement.dy).toNat % 16 * 16 % 65536 = _
    omega
  have digit : (field movement.dx).toNat / 256 < 2 ^ 4 := by omega
  rw [UInt16.toNat_toUInt8, UInt16.toNat_or, ofX, ofY, ← Nat.two_pow_add_eq_or_of_lt digit]
  omega

theorem toNat_pack_last : movement.pack[2].toNat = (field movement.dy).toNat / 16 := by
  have small := toNat_field_lt movement.dy
  change ((field movement.dy &&& 0x0FF0) >>> 4).toUInt8.toNat = _
  rw [UInt16.toNat_toUInt8, toNat_masked_shiftRight _ 0x0FF0 4 8 rfl (by decide)]
  change (field movement.dy).toNat / 16 % 256 % 256 = _
  omega

end Bytes

/-- The field of Y stands above that of X, and they do not overlap. -/
theorem wire_pack (movement : Movement) :
    wire movement.pack = (field movement.dx).toNat + 4096 * (field movement.dy).toNat := by
  rw [wire, toNat_pack_first, toNat_pack_middle, toNat_pack_last]
  omega

theorem readX_pack (movement : Movement) : readX movement.pack = nearest movement.dx.toInt := by
  have residue := toNat_field movement.dx
  rw [readX, signedField_eq, wire_pack]
  apply bmod_nearest
  omega

theorem readY_pack (movement : Movement) : readY movement.pack = nearest movement.dy.toInt := by
  have residue := toNat_field movement.dy
  have small := toNat_field_lt movement.dx
  rw [readY, signedField_eq, wire_pack]
  apply bmod_nearest
  omega

theorem pack_eq_iff {movement other : Movement} :
    movement.pack = other.pack ↔
      nearest movement.dx.toInt = nearest other.dx.toInt ∧
      nearest movement.dy.toInt = nearest other.dy.toInt := by
  simp only [← readX_pack, ← readY_pack]
  constructor
  · intro same
    rw [same]
    exact ⟨rfl, rfl⟩
  · rintro ⟨x, y⟩
    exact eq_of_fields x y

/-- Both deltas fit into their fields. -/
def Fits (movement : Movement) : Prop :=
  nearest movement.dx.toInt = movement.dx.toInt ∧ nearest movement.dy.toInt = movement.dy.toInt

theorem pack_injOn : Set.InjOn pack { movement | movement.Fits } := by
  rintro movement ⟨fitsX, fitsY⟩ other ⟨fitsX', fitsY'⟩ same
  obtain ⟨x, y⟩ := pack_eq_iff.1 same
  rw [fitsX, fitsX', Int16.toInt_inj] at x
  rw [fitsY, fitsY', Int16.toInt_inj] at y
  cases movement
  simp_all

/-- What a field reads as is not clamped. -/
theorem nearest_signedField (report : Vector UInt8 3) (start : Nat) :
    nearest (Int16.ofInt (signedField report start)).toInt = signedField report start := by
  obtain ⟨low, high⟩ := signedField_bounds report start
  rw [Int16.toInt_ofInt_of_le (by omega) (by omega), nearest_of_bounds low high]

/-- What a report reads as packs to the report again. -/
theorem pack_read (report : Vector UInt8 3) :
    pack ⟨.ofInt (readX report), .ofInt (readY report)⟩ = report := by
  apply eq_of_fields
  · rw [readX_pack]
    exact nearest_signedField report 0
  · rw [readY_pack]
    exact nearest_signedField report 12

/-- Each field reads back as the clamped delta, whatever the other delta is.  So packing is
injective on the movements that fit, and every report is that of a movement. -/
theorem packing_loses_only_the_clamp (movement : Movement) :
    readX movement.pack = nearest movement.dx.toInt ∧
    readY movement.pack = nearest movement.dy.toInt ∧
    (∀ delta, readX { movement with dy := delta }.pack = readX movement.pack ∧
      readY { movement with dx := delta }.pack = readY movement.pack) ∧
    Set.InjOn pack { movement | movement.Fits } ∧
    ∀ report, pack ⟨.ofInt (readX report), .ofInt (readY report)⟩ = report := by
  refine ⟨readX_pack movement, readY_pack movement, fun delta => ?_, pack_injOn, pack_read⟩
  simp only [readX_pack, readY_pack, and_self]

example : (pack ⟨-5, 2047⟩).toList = [0xFB, 0xFF, 0x7F] := by decide

end BondedMouse.Movement
