import BootUpgrade.Common.Protocol

/-! The RAM port of `boot_user_ram.c` with the generated write regions, and the
memory the bootloader core shares with the resident service. -/

namespace BootUpgrade

abbrev BootRamResult := UInt16

namespace BootRamResult

def ok : BootRamResult := 0
def badAddress : BootRamResult := 2

end BootRamResult

/-- The words of the device by address, RAM and Flash alike. -/
abbrev CoreMemory := UInt32 → UInt16

/-- `BOOT_SERVICE_WRITE_WORD`. -/
def CoreMemory.writeWord (memory : CoreMemory) (address : UInt32) (value : UInt16) : CoreMemory :=
  fun a => if a = address then value else memory a

@[simp] theorem CoreMemory.writeWord_self {memory : CoreMemory} {address : UInt32} {value : UInt16} :
    memory.writeWord address value address = value := if_pos rfl

theorem CoreMemory.writeWord_ne {memory : CoreMemory} {address a : UInt32} {value : UInt16}
    (h : a ≠ address) : memory.writeWord address value a = memory a := if_neg h

namespace BootRam

/-- `BOOT_USER_RAM_WRITE_REGION0_START` and so on, each with its exclusive end. -/
def writeRegions : List (UInt32 × UInt32) :=
  [(0x000000, 0x000002), (0x000123, 0x000400), (0x008000, 0x00C000), (0x010000, 0x01BFF8),
    (0x03F800, 0x040000), (0x049000, 0x049800), (0x04B000, 0x04B800)]

/-- `BootRam_IsInWriteRegion`. -/
def isInWriteRegion (address wordCount : UInt32) : Bool :=
  if wordCount = 0 then false
  else
    let endExclusive := address + wordCount
    if endExclusive < address then false
    else writeRegions.any fun region => address ≥ region.1 && endExclusive ≤ region.2

/-- `BootRam_CheckAddress`. -/
def checkAddress (address wordCount : UInt32) (regionType : UInt16) : BootRamResult :=
  if regionType ≠ BootTarget.ramApp then BootRamResult.badAddress
  else if isInWriteRegion address wordCount = false then BootRamResult.badAddress
  else BootRamResult.ok

/-- `dst[i] = data[i]` for every word of the block. -/
def storeWords (memory : CoreMemory) (address : UInt32) (data : List UInt16) : CoreMemory :=
  fun a => if (a - address).toNat < data.length then data.getD (a - address).toNat 0 else memory a

/-- `BootRam_WriteBlock`. -/
def writeBlock (address : UInt32) (data : List UInt16) (wordCount regionType : UInt16)
    (memory : CoreMemory) : BootRamResult × CoreMemory :=
  if checkAddress address wordCount.toUInt32 regionType ≠ BootRamResult.ok then
    (BootRamResult.badAddress, memory)
  else (BootRamResult.ok, storeWords memory address (data.take wordCount.toNat))

theorem writeBlock_ok {address : UInt32} {data : List UInt16} {wordCount regionType : UInt16}
    {memory : CoreMemory}
    (h : checkAddress address wordCount.toUInt32 regionType = BootRamResult.ok) :
    writeBlock address data wordCount regionType memory =
      (BootRamResult.ok, storeWords memory address (data.take wordCount.toNat)) := by
  rw [writeBlock, if_neg (not_not_intro h)]

theorem writeBlock_bad {address : UInt32} {data : List UInt16} {wordCount regionType : UInt16}
    {memory : CoreMemory}
    (h : checkAddress address wordCount.toUInt32 regionType ≠ BootRamResult.ok) :
    writeBlock address data wordCount regionType memory = (BootRamResult.badAddress, memory) := by
  rw [writeBlock, if_pos h]

/-- An accepted range is not empty and its end does not wrap. -/
theorem checkAddress_ok {address wordCount : UInt32} {regionType : UInt16}
    (h : checkAddress address wordCount regionType = BootRamResult.ok) :
    0 < wordCount.toNat ∧ address.toNat + wordCount.toNat < 4294967296 ∧
      (address + wordCount).toNat = address.toNat + wordCount.toNat := by
  have bad : BootRamResult.badAddress ≠ BootRamResult.ok := by decide
  unfold checkAddress at h
  split at h
  · exact absurd h bad
  split at h
  · exact absurd h bad
  · rename_i region
    unfold isInWriteRegion at region
    split at region
    · exact absurd rfl region
    rename_i nonempty
    dsimp only at region
    split at region
    · exact absurd rfl region
    rename_i wraps
    have sum := UInt32.toNat_add address wordCount
    have low := address.toNat_lt
    have high := wordCount.toNat_lt
    rw [UInt32.lt_iff_toNat_lt] at wraps
    have count : wordCount.toNat ≠ 0 := fun zero => nonempty (UInt32.toNat_inj.1 zero)
    omega

/-- A store leaves the words outside its block. -/
theorem storeWords_outside {memory : CoreMemory} {address a : UInt32} {data : List UInt16}
    (h : a.toNat < address.toNat ∨ address.toNat + data.length ≤ a.toNat)
    (small : address.toNat + data.length ≤ 4294967296) :
    storeWords memory address data a = memory a := by
  apply if_neg
  have ha := a.toNat_lt
  rw [UInt32.toNat_sub]
  omega

end BootRam

end BootUpgrade
