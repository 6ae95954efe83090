import BootUpgrade.Common.Crc32
import BootUpgrade.Core.Ram

/-!
# The resident service as the core sees it

The service is downloaded code at addresses its header names. Its code is a
parameter: what its two entry points do to the memory and to a state `σ` of
their own, the device behind the Flash port included.
-/

namespace BootUpgrade

/-- The memory and the service's own state. -/
structure CoreWorld (σ : Type) where
  memory : CoreMemory
  service : σ

/-- What `boot_handle_command` leaves. -/
structure ServiceReturn (σ : Type) where
  status : UInt16
  responsePayload : List UInt16
  responsePayloadWords : UInt16
  error : BootErrorDetail
  world : CoreWorld σ

/-- The code at an entry address: `boot_init` and `boot_handle_command`. -/
structure ServiceCode (σ : Type) where
  bootInit : (address : UInt32) → (deviceId cpuId maxDataWords : UInt16) → CoreWorld σ →
    UInt16 × CoreWorld σ
  handleCommand : (address : UInt32) → BootProtocolFrame → CoreWorld σ → ServiceReturn σ

namespace BootFlashServiceLayout

def headerOrigin : UInt32 := 0x013000
def publishOrigin : UInt32 := 0x013020
def runtimeOrigin : UInt32 := 0x013022
def appExportOrigin : UInt32 := 0x013080
def dataOrigin : UInt32 := 0x015B00
def dataLength : UInt32 := 0x000500

end BootFlashServiceLayout

namespace BootFlashServiceAbi

open BootFlashServiceLayout

def publishValid : UInt16 := 0xA55A
def publishValidInverse : UInt16 := 0x5AA5
def publishInvalid : UInt16 := 0x0000

def headerMagic : UInt32 := 0x46534832
def abiMajor : UInt16 := 2
def abiMinor : UInt16 := 0
def headerVersion : UInt16 := 1
def headerWords : UInt16 := 28
def headerReservedWords : UInt32 := 0x20
def crc32Ieee : UInt16 := 1

def stateDetached : UInt16 := 0x0000
def stateAttached : UInt16 := 0x0002
def stateError : UInt16 := 0x0003

/-- Erase, program, verify and metadata write. -/
def requiredCapabilities : UInt32 := 0x0F

/-- `header[index]`. -/
def headerWord (memory : CoreMemory) (index : Nat) : UInt16 :=
  memory (headerOrigin + UInt32.ofNat index)

def headerU32 (memory : CoreMemory) (index : Nat) : UInt32 :=
  joinU32 (headerWord memory index) (headerWord memory (index + 1))

def immutableStart (memory : CoreMemory) : UInt32 := headerU32 memory 6
def immutableEnd (memory : CoreMemory) : UInt32 := headerU32 memory 8
def appExportAddress (memory : CoreMemory) : UInt32 := headerU32 memory 14
def bootInitAddress (memory : CoreMemory) : UInt32 := headerU32 memory 16
def commandAddress (memory : CoreMemory) : UInt32 := headerU32 memory 18

/-- The words the image CRC runs over. -/
def immutableWords (memory : CoreMemory) : List UInt16 :=
  (List.range (immutableEnd memory - immutableStart memory).toNat).map fun k =>
    memory (immutableStart memory + UInt32.ofNat k)

/-- The address in the application export, that of `confirm_current_image`. -/
def confirmAddress (memory : CoreMemory) : UInt32 :=
  joinU32 (memory (appExportAddress memory)) (memory (appExportAddress memory + 1))

/-- `address` is in the immutable range. -/
def inImmutable (memory : CoreMemory) (address : UInt32) : Prop :=
  immutableStart memory ≤ address ∧ address < immutableEnd memory

instance (memory : CoreMemory) (address : UInt32) : Decidable (inImmutable memory address) :=
  inferInstanceAs (Decidable (_ ∧ _))

/-- The checks of `BootAlgorithm_ValidateFlashService` before it calls `boot_init`. -/
def checkHeader (memory : CoreMemory) : UInt16 :=
  if headerU32 memory 0 ≠ headerMagic ∨ headerWord memory 2 ≠ headerVersion ∨
      headerWord memory 3 ≠ headerWords ∨
      BootCrc32.calcWords ((List.range 26).map (headerWord memory)) ≠ headerU32 memory 26 then
    BootStatus.metadataInvalid
  else if headerWord memory 4 ≠ abiMajor ∨ headerWord memory 5 > abiMinor ∨
      headerWord memory 22 ≠ crc32Ieee then
    BootStatus.unsupportedProtocol
  else if headerU32 memory 10 ≠ publishOrigin ∨ headerU32 memory 12 ≠ runtimeOrigin ∨
      appExportAddress memory ≠ appExportOrigin ∨
      immutableStart memory ≠ appExportAddress memory then
    BootStatus.metadataInvalid
  else if immutableStart memory < headerOrigin + headerReservedWords ∨
      immutableEnd memory ≤ immutableStart memory ∨
      BootRam.checkAddress (immutableStart memory) (immutableEnd memory - immutableStart memory)
        BootTarget.ramApp ≠ BootRamResult.ok ∨
      ¬ inImmutable memory (bootInitAddress memory) ∨
      ¬ inImmutable memory (commandAddress memory) then
    BootStatus.ramRegionError
  else if confirmAddress memory = 0 ∨ confirmAddress memory = 0xFFFFFFFF ∨
      ¬ inImmutable memory (confirmAddress memory) then
    BootStatus.ramRegionError
  else if headerU32 memory 20 &&& requiredCapabilities ≠ requiredCapabilities then
    BootStatus.unsupportedFeature
  else if BootCrc32.calcWords (immutableWords memory) ≠ headerU32 memory 24 then
    BootStatus.verifyMismatch
  else if bootInitAddress memory = 0 ∨ commandAddress memory = 0 then BootStatus.ramRegionError
  else BootStatus.ok

end BootFlashServiceAbi

end BootUpgrade
