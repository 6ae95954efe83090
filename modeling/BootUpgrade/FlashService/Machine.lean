import BootUpgrade.Lib.Runs
import BootUpgrade.FlashService.Step

/-!
# Runs of the service

The inputs are the three entry points of the library. An event also keeps the
port calls of its step, each with the device on both sides of it. What the
device does is not an input: a port is given with its world, which may hold
the outcomes of all its future calls.
-/

namespace BootUpgrade

inductive ServiceInput where
  | bootInit (deviceId cpuId maxDataWords : UInt16)
  | command (request : BootProtocolFrame)
  | confirmCurrentImage

structure ServiceOutput (σ : Type) where
  status : UInt16
  error : BootErrorDetail
  calls : List (LoggedCall σ)

abbrev ServiceEvent (σ : Type) := Runs.Event (FlashService σ) ServiceInput (ServiceOutput σ)

namespace BootFlashService

variable {σ : Type}

/-- The service over a device whose calls are recorded from now on. -/
def watched (s : FlashService σ) : FlashService (Logged σ) := ⟨s.runtime, ⟨s.world, []⟩⟩

/-- The service without the record. -/
def unwatched (s : FlashService (Logged σ)) : FlashService σ := ⟨s.runtime, s.world.world⟩

def observe (o : Outcome (Logged σ)) : ServiceOutput σ × FlashService σ :=
  (⟨o.status, o.error, o.service.world.calls⟩, unwatched o.service)

def serviceMachine (port : FlashPort σ) :
    Runs.Machine (FlashService σ) ServiceInput (ServiceOutput σ) where
  step s input :=
    match input with
    | .bootInit deviceId cpuId maxDataWords =>
      let r := bootInit deviceId cpuId maxDataWords s
      (⟨r.1, .clear, []⟩, r.2)
    | .command request =>
      observe (bootHandleCommand port.logged request 0 .clear (watched s)).toOutcome
    | .confirmCurrentImage => observe (confirmCurrentImage port.logged (watched s))

/-- The event of a step, as the machine makes it. -/
def eventOf (s : FlashService σ) (input : ServiceInput) (status : UInt16)
    (error : BootErrorDetail) (s' : FlashService (Logged σ)) : ServiceEvent σ :=
  ⟨s, input, ⟨status, error, s'.world.calls⟩, unwatched s'⟩

theorem bootInit_closed (deviceId cpuId maxDataWords : UInt16) (s : FlashService σ) :
    (bootInit deviceId cpuId maxDataWords s).2.runtime.session = .reset ∧
      (bootInit deviceId cpuId maxDataWords s).2.runtime.verifySucceeded = 0 := by
  unfold bootInit
  dsimp only
  split
  · exact ⟨rfl, rfl⟩
  · split <;> exact ⟨rfl, rfl⟩

end BootFlashService

end BootUpgrade
