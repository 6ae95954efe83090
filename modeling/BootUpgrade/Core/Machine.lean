import BootUpgrade.Lib.Runs
import BootUpgrade.Core.Step

/-!
# Runs of the core

The inputs are the received frames and calls of `BootAlgorithm_RestoreFlashService`;
a run starts from what `BootAlgorithm_Init` leaves.
-/

namespace BootUpgrade

inductive CoreInput where
  | request (request : BootProtocolFrame) (received : BootAlgorithm.ReceiveResult)
  | restoreFlashService

structure CoreOutput where
  status : UInt16
  response : Option BootResponse
  action : BootAlgorithmAction

abbrev CoreEvent (σ : Type) := Runs.Event (Core σ) CoreInput CoreOutput

namespace BootAlgorithm

variable {σ : Type}

def coreMachine (features : BootFeatures) (code : ServiceCode σ) :
    Runs.Machine (Core σ) CoreInput CoreOutput where
  step c input :=
    match input with
    | .request request received =>
      let r := processOne request features code received c
      (⟨r.response.status, some r.response, r.action⟩, r.core)
    | .restoreFlashService =>
      let r := restoreFlashService code c
      (⟨r.1, none, .none⟩, r.2)

/-- The event is a request of this command, answered with OK. -/
structure Accepted (command : UInt16) (request : BootProtocolFrame) (ev : CoreEvent σ) : Prop where
  input : ∃ received, ev.input = .request request received
  command : request.command = command
  status : ev.output.status = BootStatus.ok

/-- The event begins no RAM load. -/
def BeginsNoLoad (ev : CoreEvent σ) : Prop :=
  ∀ request, ¬ Accepted BootCmd.ramLoadBegin request ev

/-- The packet of an accepted RAM_LOAD_DATA. -/
def acceptedPacket (ev : CoreEvent σ) : Option BootProtocolFrame :=
  match ev.input with
  | .request request _ =>
    if request.command = BootCmd.ramLoadData ∧ ev.output.status = BootStatus.ok then some request
    else none
  | .restoreFlashService => none

/-- The accepted RAM_LOAD_DATA packets of a history, in order. -/
def packets (h : List (CoreEvent σ)) : List BootProtocolFrame := h.filterMap acceptedPacket

@[simp] theorem packets_nil : packets ([] : List (CoreEvent σ)) = [] := rfl

theorem packets_append (h h' : List (CoreEvent σ)) :
    packets (h ++ h') = packets h ++ packets h' := List.filterMap_append

theorem packets_other {ev : CoreEvent σ} (h : acceptedPacket ev = none) : packets [ev] = [] := by
  rw [packets, List.filterMap_cons_none h, List.filterMap_nil]

theorem packets_accepted {ev : CoreEvent σ} {request : BootProtocolFrame}
    (h : Accepted BootCmd.ramLoadData request ev) : packets [ev] = [request] := by
  obtain ⟨received, input⟩ := h.input
  have packet : acceptedPacket ev = some request := by
    rw [acceptedPacket, input]
    exact if_pos ⟨h.command, h.status⟩
  rw [packets, List.filterMap_cons_some packet, List.filterMap_nil]

/-- An event that is neither an accepted BEGIN nor an accepted DATA. -/
structure Passive (ev : CoreEvent σ) : Prop where
  beginsNoLoad : BeginsNoLoad ev
  packet : acceptedPacket ev = none

theorem passive_restore {ev : CoreEvent σ} (input : ev.input = .restoreFlashService) :
    Passive ev := by
  constructor
  · intro request accepted
    obtain ⟨received, h⟩ := accepted.input
    rw [input] at h
    cases h
  · rw [acceptedPacket, input]

theorem passive_request {ev : CoreEvent σ} {request : BootProtocolFrame} {received : ReceiveResult}
    (input : ev.input = .request request received)
    (other : ev.output.status = BootStatus.ok →
      request.command ≠ BootCmd.ramLoadBegin ∧ request.command ≠ BootCmd.ramLoadData) :
    Passive ev := by
  constructor
  · intro request' accepted
    obtain ⟨received', h⟩ := accepted.input
    rw [input] at h
    cases h
    exact (other accepted.status).1 accepted.command
  · rw [acceptedPacket, input]
    exact if_neg fun h => (other h.2).2 h.1

end BootAlgorithm

end BootUpgrade
