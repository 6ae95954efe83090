import BootUpgrade.Core.CrcGate
import BootUpgrade.FlashService.VerifyGate

/-!
# The device

The core with the Flash service of `boot_flash_service_lib.c` as the code it
calls. The core reads the Flash through the memory: what a call of the service
changes behind the port changes there too.
-/

namespace BootUpgrade

namespace Device

variable {σ : Type} (port : FlashPort σ)

def flashOrigin : UInt32 := 0x080000
def flashEndExclusive : UInt32 := 0x0C0000

/-- The memory, with the Flash words that a call of the service has changed. -/
def flashChanged (before after : σ) (memory : CoreMemory) : CoreMemory := fun address =>
  if flashOrigin ≤ address ∧ address < flashEndExclusive ∧
      port.readWord after address ≠ port.readWord before address then
    port.readWord after address
  else memory address

@[simp] theorem flashChanged_self (world : σ) (memory : CoreMemory) :
    flashChanged port world world memory = memory := by
  funext address
  apply if_neg
  intro changed
  exact changed.2.2 rfl

/-- `boot_init` and `boot_handle_command` of the service, at any entry address. -/
def flashServiceCode : ServiceCode (FlashService σ) where
  bootInit _ deviceId cpuId maxDataWords w :=
    let r := BootFlashService.bootInit deviceId cpuId maxDataWords w.service
    (r.1, { w with service := r.2 })
  handleCommand _ request w :=
    let r := BootFlashService.bootHandleCommand port request 0 .clear w.service
    { status := r.status
      responsePayload := []
      responsePayloadWords := r.responsePayloadWords
      error := r.error
      world := ⟨flashChanged port w.service.world r.service.world w.memory, r.service⟩ }

/-- A device with the service attached, its journal blank. -/
def attached : Core (FlashService (UInt32 → UInt16)) where
  algorithm :=
    { BootAlgorithm.cpu1Core.algorithm with
      serviceCommandHandler := some 0x013100
      serviceActive := 1
      serviceState :=
        ⟨BootFlashServiceAbi.stateAttached, BootStatus.ok, BootFlashServiceAbi.requiredCapabilities,
          0x12345678, 0x1000⟩ }
  world := ⟨BootFlashService.freshService.world, BootFlashService.freshService⟩

end Device

end BootUpgrade
