import BootUpgrade.Gui.RuntimePolicies

/-!
# What evidence in the runtime store stands for

Verify evidence and RAM CRC evidence go through the same life: a success creates
them, for the connection and the image that are there, and the next start of an
operation that could make them untrue takes them away.
-/

namespace BootUpgrade

open Runs HostImages

abbrev StoreEvent := Event RuntimeStateStore DomainEvent
  (Except DomainTransitionError (RuntimeV2Snapshot × List DomainEvent))

/-- The CPU and the generation are those of the active connection. -/
def ActiveConnection (cpuId : RuntimeCpuId) (generation : Nat)
    (connection : Option ConnectionRuntimeState) : Prop :=
  ∃ connection', connection = some connection' ∧ connection'.cpuId = cpuId ∧
    connection'.generation = generation

theorem currentConnection_iff {cpuId : RuntimeCpuId} {generation : Nat}
    {connection : Option ConnectionRuntimeState} :
    currentConnection cpuId generation connection = true ↔
      ActiveConnection cpuId generation connection := by
  simp [currentConnection, ActiveConnection, Option.any_eq_true]

/-- One of the two kinds of evidence: where it is kept, which image it is about,
which success creates it and which starts take it away. -/
structure EvidenceKind where
  Identity : Type
  kept : {cpuId : RuntimeCpuId} → TargetResourceState cpuId → Option (Nat × Identity × Text)
  image : {cpuId : RuntimeCpuId} → TargetResourceState cpuId → Option Identity
  operation : Identity → RuntimeOperation
  undoes : RuntimeOperation → Bool

def verifyKind : EvidenceKind where
  Identity := ImageIdentity
  kept resource := resource.verifyEvidence.map fun evidence =>
    (evidence.connectionGeneration, evidence.imageIdentity, evidence.operationId)
  image resource := resource.programImage.summary.map (·.identity)
  operation := .verify
  undoes := RuntimeOperation.onFlash

def ramCrcKind : EvidenceKind where
  Identity := RamImageIdentity
  kept resource := resource.ramCrcEvidence.map fun evidence =>
    (evidence.connectionGeneration, evidence.ramImageIdentity, evidence.operationId)
  image resource := resource.ramImage.summary.map (·.identity)
  operation := .ramCrc
  undoes operation := !operation.onFlash

/-- The event does not take evidence of the CPU away: it neither opens nor closes the
connection, starts nothing that undoes the evidence and selects no other image. -/
structure Spares (undoes : RuntimeOperation → Bool) (cpuId : RuntimeCpuId) (event : DomainEvent) :
    Prop where
  opened : ∀ info named, event ≠ .connectionOpened info named
  closed : ∀ connectionId closing, event ≠ .connectionClosed connectionId closing
  session : event ≠ .sessionChanged
  quiet : ∀ started, event = .operationStarted started → started.cpuId = cpuId →
    undoes started.operation = false

namespace EvidenceKind

variable (kind : EvidenceKind)

section
variable {cpuId : RuntimeCpuId} (generation : Nat) (identity : kind.Identity) (operationId : Text)

/-- The success that creates the evidence. -/
def success (cpuId : RuntimeCpuId) : DomainEvent :=
  .operationSucceeded ⟨operationId, kind.operation identity, cpuId, generation⟩

/-- The evidence is of the active connection, about the image that is selected, and
nothing that takes it away has started since the success that created it. -/
structure Backed (cpuId : RuntimeCpuId) (h : List StoreEvent) (store : RuntimeStateStore) : Prop where
  connection : ActiveConnection cpuId generation store.connection
  image : ∀ selected, kind.image (store.targetResources cpuId) = some selected → identity = selected
  since : Since
    (fun _ ev => ev.input = kind.success generation identity operationId cpuId ∧
      kind.kept (ev.after.targetResources cpuId) = some (generation, identity, operationId))
    (fun ev => (∀ started, ev.input = .operationStarted started → started.cpuId = cpuId →
        kind.undoes started.operation = false) ∧
      kind.kept (ev.after.targetResources cpuId) = some (generation, identity, operationId)) h

end

end EvidenceKind

/-! ## What the policies leave alone -/

section
variable (event : DomainEvent) (connection : Option ConnectionRuntimeState) {cpuId : RuntimeCpuId}
  (resource : TargetResourceState cpuId)

theorem evidenceInvalidated_images :
    (evidenceInvalidated event cpuId resource).programImage = resource.programImage ∧
      (evidenceInvalidated event cpuId resource).ramImage = resource.ramImage := by
  unfold evidenceInvalidated
  repeat' first | exact ⟨rfl, rfl⟩ | split

theorem verifyEvidenceAfter_frame :
    (verifyEvidenceAfter event connection cpuId resource).programImage = resource.programImage ∧
      (verifyEvidenceAfter event connection cpuId resource).ramImage = resource.ramImage ∧
      (verifyEvidenceAfter event connection cpuId resource).ramCrcEvidence =
        resource.ramCrcEvidence := by
  unfold verifyEvidenceAfter
  repeat' first | exact ⟨rfl, rfl, rfl⟩ | split

theorem ramCrcEvidenceAfter_frame :
    (ramCrcEvidenceAfter event connection cpuId resource).programImage = resource.programImage ∧
      (ramCrcEvidenceAfter event connection cpuId resource).ramImage = resource.ramImage ∧
      (ramCrcEvidenceAfter event connection cpuId resource).verifyEvidence =
        resource.verifyEvidence := by
  unfold ramCrcEvidenceAfter
  repeat' first | exact ⟨rfl, rfl, rfl⟩ | split

theorem sectorSelectionAfter_frame :
    (sectorSelectionAfter event cpuId resource).programImage = resource.programImage ∧
      (sectorSelectionAfter event cpuId resource).ramImage = resource.ramImage ∧
      (sectorSelectionAfter event cpuId resource).verifyEvidence = resource.verifyEvidence ∧
      (sectorSelectionAfter event cpuId resource).ramCrcEvidence = resource.ramCrcEvidence := by
  unfold sectorSelectionAfter
  repeat' first | exact ⟨rfl, rfl, rfl, rfl⟩ | split

theorem programImageAfter_frame :
    (programImageAfter event cpuId resource).ramImage = resource.ramImage ∧
      (programImageAfter event cpuId resource).verifyEvidence = resource.verifyEvidence ∧
      (programImageAfter event cpuId resource).ramCrcEvidence = resource.ramCrcEvidence := by
  unfold programImageAfter
  repeat' first | exact ⟨rfl, rfl, rfl⟩ | split

theorem ramImageAfter_frame :
    (ramImageAfter event cpuId resource).programImage = resource.programImage ∧
      (ramImageAfter event cpuId resource).verifyEvidence = resource.verifyEvidence ∧
      (ramImageAfter event cpuId resource).ramCrcEvidence = resource.ramCrcEvidence := by
  unfold ramImageAfter
  repeat' first | exact ⟨rfl, rfl, rfl⟩ | split

theorem sessionStateAfter_eq (other : event ≠ .sessionChanged) :
    sessionStateAfter event cpuId resource = resource := by
  unfold sessionStateAfter
  split
  · exact absurd rfl other
  · rfl

/-- The evidence behind an event is what its two policies leave of it. -/
theorem resourceAfter_evidence (other : event ≠ .sessionChanged) :
    (resourceAfter event connection cpuId resource).verifyEvidence =
        (verifyEvidenceAfter event connection cpuId
          (evidenceInvalidated event cpuId resource)).verifyEvidence ∧
      (resourceAfter event connection cpuId resource).ramCrcEvidence =
        (ramCrcEvidenceAfter event connection cpuId (verifyEvidenceAfter event connection cpuId
          (evidenceInvalidated event cpuId resource))).ramCrcEvidence := by
  unfold resourceAfter
  rw [sessionStateAfter_eq _ _ other]
  constructor
  · rw [(ramImageAfter_frame _ _).2.1, (programImageAfter_frame _ _).2.1,
      (sectorSelectionAfter_frame _ _).2.2.1, (ramCrcEvidenceAfter_frame _ _ _).2.2]
  · rw [(ramImageAfter_frame _ _).2.2, (programImageAfter_frame _ _).2.2,
      (sectorSelectionAfter_frame _ _).2.2.2]

/-- The images behind an event are those before it unless it changes them. -/
theorem resourceAfter_images (other : event ≠ .sessionChanged) :
    ((resourceAfter event connection cpuId resource).programImage = resource.programImage ∨
      ∃ path image named, event = .programImageChanged cpuId path image named ∧
        (resourceAfter event connection cpuId resource).programImage = image) ∧
    ((resourceAfter event connection cpuId resource).ramImage = resource.ramImage ∨
      ∃ path image named, event = .ramImageChanged cpuId path image named ∧
        (resourceAfter event connection cpuId resource).ramImage = image) := by
  have before : ∀ r : TargetResourceState cpuId, r = sectorSelectionAfter event cpuId
      (ramCrcEvidenceAfter event connection cpuId (verifyEvidenceAfter event connection cpuId
        (evidenceInvalidated event cpuId resource))) →
      r.programImage = resource.programImage ∧ r.ramImage = resource.ramImage := by
    rintro r rfl
    rw [(sectorSelectionAfter_frame _ _).1, (ramCrcEvidenceAfter_frame _ _ _).1,
      (verifyEvidenceAfter_frame _ _ _).1, (sectorSelectionAfter_frame _ _).2.1,
      (ramCrcEvidenceAfter_frame _ _ _).2.1, (verifyEvidenceAfter_frame _ _ _).2.1]
    exact evidenceInvalidated_images event resource
  unfold resourceAfter
  rw [sessionStateAfter_eq _ _ other]
  obtain ⟨program, ram⟩ := before _ rfl
  generalize sectorSelectionAfter event cpuId (ramCrcEvidenceAfter event connection cpuId
    (verifyEvidenceAfter event connection cpuId (evidenceInvalidated event cpuId resource))) = r
    at program ram
  constructor
  · rw [(ramImageAfter_frame _ _).1, ← program]
    unfold programImageAfter
    split
    · rename_i target path image named
      split
      · rename_i same
        subst same
        exact .inr ⟨path, image, named, rfl, rfl⟩
      · exact .inl rfl
    · exact .inl rfl
  · rw [← ram, ← (programImageAfter_frame event r).1]
    unfold ramImageAfter
    split
    · rename_i target path image named
      split
      · rename_i same
        subst same
        exact .inr ⟨path, image, named, rfl, rfl⟩
      · exact .inl rfl
    · exact .inl rfl

/-! ## How evidence comes and goes -/

variable {event connection resource}

theorem verifyEvidenceAfter_some {evidence : VerifyEvidence cpuId}
    (present : (verifyEvidenceAfter event connection cpuId resource).verifyEvidence = some evidence) :
    (event = .operationSucceeded ⟨evidence.operationId, .verify evidence.imageIdentity, cpuId,
        evidence.connectionGeneration⟩ ∧
      currentConnection cpuId evidence.connectionGeneration connection = true ∧
      resource.programImage.summary.map (·.identity) = some evidence.imageIdentity) ∨
    resource.verifyEvidence = some evidence := by
  unfold verifyEvidenceAfter at present
  split at present
  · split at present
    · rename_i created
      obtain ⟨rfl, current, selected⟩ := created
      cases present
      obtain ⟨summary, ready, same⟩ := Option.any_eq_true _ _ |>.1 selected
      refine .inl ⟨rfl, current, ?_⟩
      rw [ready, Option.map_some, of_decide_eq_true same]
    · exact .inr present
  · exact .inr present

theorem ramCrcEvidenceAfter_some {evidence : RamCrcEvidence cpuId}
    (present : (ramCrcEvidenceAfter event connection cpuId resource).ramCrcEvidence = some evidence) :
    (event = .operationSucceeded ⟨evidence.operationId, .ramCrc evidence.ramImageIdentity, cpuId,
        evidence.connectionGeneration⟩ ∧
      currentConnection cpuId evidence.connectionGeneration connection = true ∧
      resource.ramImage.summary.map (·.identity) = some evidence.ramImageIdentity) ∨
    resource.ramCrcEvidence = some evidence := by
  unfold ramCrcEvidenceAfter at present
  split at present
  · split at present
    · rename_i created
      obtain ⟨rfl, current, selected⟩ := created
      cases present
      obtain ⟨summary, ready, same⟩ := Option.any_eq_true _ _ |>.1 selected
      refine .inl ⟨rfl, current, ?_⟩
      rw [ready, Option.map_some, of_decide_eq_true same]
    · exact .inr present
  · exact .inr present

theorem evidenceInvalidated_verify {evidence : VerifyEvidence cpuId}
    (present : (evidenceInvalidated event cpuId resource).verifyEvidence = some evidence) :
    resource.verifyEvidence = some evidence ∧ Spares RuntimeOperation.onFlash cpuId event ∧
      ∀ path image named summary, event = .programImageChanged cpuId path image named →
        image.summary = some summary → evidence.imageIdentity = summary.identity := by
  cases event with
  | connectionOpened | connectionClosed | connectionGenerationChanged | activeTargetChanged
  | sessionChanged => cases present
  | operationStarted started =>
    unfold evidenceInvalidated at present
    dsimp only at present
    by_cases other : started.cpuId ≠ cpuId
    · rw [if_pos other] at present
      refine ⟨present, ⟨by simp, by simp, by simp, ?_⟩, by simp⟩
      rintro started ⟨⟩ same
      exact absurd same other
    rw [if_neg other] at present
    by_cases onFlash : started.operation.onFlash = true
    · rw [if_pos onFlash] at present
      cases present
    · rw [if_neg onFlash] at present
      refine ⟨present, ⟨by simp, by simp, by simp, ?_⟩, by simp⟩
      rintro started ⟨⟩ _
      simpa using onFlash
  | programImageChanged target path image named =>
    unfold evidenceInvalidated at present
    dsimp only at present
    split at present
    · cases present
    rename_i differs
    refine ⟨present, ⟨by simp, by simp, by simp, by simp⟩, ?_⟩
    rintro path image named summary ⟨⟩ selected
    apply Decidable.byContradiction
    intro other
    rw [selected, present] at differs
    exact differs ⟨rfl, decide_eq_true other⟩
  | ramImageChanged target path image named =>
    unfold evidenceInvalidated at present
    dsimp only at present
    split at present
    · exact ⟨present, ⟨by simp, by simp, by simp, by simp⟩, by simp⟩
    · exact ⟨present, ⟨by simp, by simp, by simp, by simp⟩, by simp⟩
  | _ => exact ⟨present, ⟨by simp, by simp, by simp, by simp⟩, by simp⟩

theorem evidenceInvalidated_ramCrc {evidence : RamCrcEvidence cpuId}
    (present : (evidenceInvalidated event cpuId resource).ramCrcEvidence = some evidence) :
    resource.ramCrcEvidence = some evidence ∧ Spares (!·.onFlash) cpuId event ∧
      ∀ path image named summary, event = .ramImageChanged cpuId path image named →
        image.summary = some summary → evidence.ramImageIdentity = summary.identity := by
  cases event with
  | connectionOpened | connectionClosed | connectionGenerationChanged | activeTargetChanged
  | sessionChanged => cases present
  | operationStarted started =>
    unfold evidenceInvalidated at present
    dsimp only at present
    by_cases other : started.cpuId ≠ cpuId
    · rw [if_pos other] at present
      refine ⟨present, ⟨by simp, by simp, by simp, ?_⟩, by simp⟩
      rintro started ⟨⟩ same
      exact absurd same other
    rw [if_neg other] at present
    by_cases onFlash : started.operation.onFlash = true
    · rw [if_pos onFlash] at present
      refine ⟨present, ⟨by simp, by simp, by simp, ?_⟩, by simp⟩
      rintro started ⟨⟩ _
      rw [onFlash, Bool.not_true]
    · rw [if_neg onFlash] at present
      cases present
  | ramImageChanged target path image named =>
    unfold evidenceInvalidated at present
    dsimp only at present
    split at present
    · cases present
    rename_i differs
    refine ⟨present, ⟨by simp, by simp, by simp, by simp⟩, ?_⟩
    rintro path image named summary ⟨⟩ selected
    apply Decidable.byContradiction
    intro other
    rw [selected, present] at differs
    exact differs ⟨rfl, decide_eq_true other⟩
  | programImageChanged target path image named =>
    unfold evidenceInvalidated at present
    dsimp only at present
    split at present
    · exact ⟨present, ⟨by simp, by simp, by simp, by simp⟩, by simp⟩
    · exact ⟨present, ⟨by simp, by simp, by simp, by simp⟩, by simp⟩
  | _ => exact ⟨present, ⟨by simp, by simp, by simp, by simp⟩, by simp⟩

end

/-! ## The invariant -/

namespace EvidenceKind

/-- A kind of evidence that the policies look after. -/
def Guarded (kind : EvidenceKind) : Prop :=
  ∀ (event : DomainEvent) (connection : Option ConnectionRuntimeState) (cpuId : RuntimeCpuId)
    (before : TargetResourceState cpuId) (generation : Nat) (identity : kind.Identity)
    (operationId : Text),
    kind.kept (resourceAfter event connection cpuId before) = some (generation, identity, operationId) →
      (event = kind.success generation identity operationId cpuId ∧
        currentConnection cpuId generation connection = true ∧
        kind.image (resourceAfter event connection cpuId before) = some identity) ∨
      (kind.kept before = some (generation, identity, operationId) ∧ Spares kind.undoes cpuId event ∧
        ∀ selected, kind.image (resourceAfter event connection cpuId before) = some selected →
          kind.image before = some selected ∨ identity = selected)

end EvidenceKind

theorem verifyKind_guarded : verifyKind.Guarded := by
  intro event connection cpuId before generation identity operationId present
  by_cases session : event = .sessionChanged
  · subst session
    cases present
  obtain ⟨evidence, there, same⟩ := Option.map_eq_some_iff.1 present
  cases same
  rw [(resourceAfter_evidence event connection before session).1] at there
  obtain ⟨image, -⟩ := resourceAfter_images event connection before session
  rcases verifyEvidenceAfter_some there with ⟨created, current, selected⟩ | kept
  · left
    refine ⟨created, current, ?_⟩
    rcases image with same | ⟨path, image, named, changed, -⟩
    · rw [(evidenceInvalidated_images event before).1] at selected
      exact (congrArg (fun image => (ImageParse.summary image).map (·.identity)) same).trans selected
    · rw [created] at changed
      cases changed
  · right
    obtain ⟨was, spares, selects⟩ := evidenceInvalidated_verify kept
    refine ⟨congrArg (Option.map _) was, spares, ?_⟩
    intro selected is
    rcases image with same | ⟨path, image, named, changed, new⟩
    · left
      rw [← is]
      exact congrArg (fun image => (ImageParse.summary image).map _) same.symm
    · right
      obtain ⟨summary, ready, rfl⟩ := Option.map_eq_some_iff.1 is
      rw [new] at ready
      exact selects path image named summary changed ready

theorem ramCrcKind_guarded : ramCrcKind.Guarded := by
  intro event connection cpuId before generation identity operationId present
  by_cases session : event = .sessionChanged
  · subst session
    cases present
  obtain ⟨evidence, there, same⟩ := Option.map_eq_some_iff.1 present
  cases same
  rw [(resourceAfter_evidence event connection before session).2] at there
  obtain ⟨-, image⟩ := resourceAfter_images event connection before session
  rcases ramCrcEvidenceAfter_some there with ⟨created, current, selected⟩ | kept
  · left
    refine ⟨created, current, ?_⟩
    rcases image with same | ⟨path, image, named, changed, -⟩
    · rw [(verifyEvidenceAfter_frame _ _ _).2.1, (evidenceInvalidated_images event before).2]
        at selected
      exact (congrArg (fun image => (ImageParse.summary image).map (·.identity)) same).trans selected
    · rw [created] at changed
      cases changed
  · right
    rw [(verifyEvidenceAfter_frame _ _ _).2.2] at kept
    obtain ⟨was, spares, selects⟩ := evidenceInvalidated_ramCrc kept
    refine ⟨congrArg (Option.map _) was, spares, ?_⟩
    intro selected is
    rcases image with same | ⟨path, image, named, changed, new⟩
    · left
      rw [← is]
      exact congrArg (fun image => (ImageParse.summary image).map _) same.symm
    · right
      obtain ⟨summary, ready, rfl⟩ := Option.map_eq_some_iff.1 is
      rw [new] at ready
      exact selects path image named summary changed ready

/-- A connection that is neither opened nor closed keeps its CPU and its generation. -/
theorem ConnectionAfter.active_iff {event : DomainEvent} {store : RuntimeStateStore} {generation : Nat}
    {connection : Option ConnectionRuntimeState}
    (changed : ConnectionAfter store generation connection event)
    (opened : ∀ info named, event ≠ .connectionOpened info named)
    (closed : ∀ connectionId closing, event ≠ .connectionClosed connectionId closing)
    (cpuId : RuntimeCpuId) (current : Nat) :
    ActiveConnection cpuId current connection ↔ ActiveConnection cpuId current store.connection := by
  cases changed with
  | opened => exact absurd rfl (opened _ _)
  | closed => exact absurd rfl (closed _ _)
  | kept _ _ recorded _ =>
    rw [recorded]
    unfold ActiveConnection
    constructor
    · rintro ⟨connection', there, cpu, is⟩
      obtain ⟨old, was, rfl⟩ := Option.map_eq_some_iff.1 there
      rw [(generation_recorded event old).2] at cpu
      rw [(generation_recorded event old).1] at is
      exact ⟨old, was, cpu, is⟩
    · rintro ⟨old, was, cpu, is⟩
      refine ⟨_, Option.map_eq_some_iff.2 ⟨old, was, rfl⟩, ?_, ?_⟩
      · rw [(generation_recorded event old).2, cpu]
      · rw [(generation_recorded event old).1, is]

namespace EvidenceKind

variable {kind : EvidenceKind}

/-- What a step leaves as it was when it leaves evidence of the CPU. -/
structure Spared (kind : EvidenceKind) (store : RuntimeStateStore) (event : DomainEvent)
    (cpuId : RuntimeCpuId) (identity : kind.Identity) (after : RuntimeStateStore) : Prop where
  connection : ∀ generation, ActiveConnection cpuId generation after.connection ↔
    ActiveConnection cpuId generation store.connection
  quiet : ∀ started, event = .operationStarted started → started.cpuId = cpuId →
    kind.undoes started.operation = false
  image : ∀ selected, kind.image (after.targetResources cpuId) = some selected →
    kind.image (store.targetResources cpuId) = some selected ∨ identity = selected

/-- Evidence that is there behind a step was there before, or the step has created it. -/
theorem kept_step (guarded : kind.Guarded) (store : RuntimeStateStore) (event : DomainEvent)
    {cpuId : RuntimeCpuId} {generation : Nat} {identity : kind.Identity} {operationId : Text}
    (present : kind.kept ((runtimeStore.step store event).2.targetResources cpuId) =
      some (generation, identity, operationId)) :
    (event = kind.success generation identity operationId cpuId ∧
      ActiveConnection cpuId generation (runtimeStore.step store event).2.connection ∧
      kind.image ((runtimeStore.step store event).2.targetResources cpuId) = some identity) ∨
    (kind.kept (store.targetResources cpuId) = some (generation, identity, operationId) ∧
      Spared kind store event cpuId identity (runtimeStore.step store event).2) := by
  rcases step_cases store event with ⟨may, error, raised⟩ | ⟨committed, -, done⟩
  · right
    have quiet : ∀ started, event ≠ .operationStarted started := by
      rintro started rfl
      cases may
    have same : (runtimeStore.step store event).2 = store := congrArg Prod.snd raised
    rw [same] at present ⊢
    refine ⟨present, fun _ => Iff.rfl, fun started start => absurd start (quiet started), ?_⟩
    intro selected is
    exact .inl is
  · rw [done.resources] at present
    rcases guarded event _ cpuId _ generation identity operationId present with
      ⟨created, current, selected⟩ | ⟨was, spares, selects⟩
    · left
      refine ⟨created, currentConnection_iff.1 current, ?_⟩
      rw [done.resources]
      exact selected
    · right
      refine ⟨was, ?_, spares.quiet, ?_⟩
      · exact done.connection.active_iff spares.opened spares.closed cpuId
      · intro other is
        rw [done.resources] at is
        exact selects other is

theorem backed_step (guarded : kind.Guarded) {h : List StoreEvent} {store : RuntimeStateStore}
    (backed : ∀ cpuId generation identity operationId,
      kind.kept (store.targetResources cpuId) = some (generation, identity, operationId) →
      kind.Backed generation identity operationId cpuId h store) (event : DomainEvent)
    (cpuId : RuntimeCpuId) (generation : Nat) (identity : kind.Identity) (operationId : Text)
    (present : kind.kept ((runtimeStore.step store event).2.targetResources cpuId) =
      some (generation, identity, operationId)) :
    kind.Backed generation identity operationId cpuId (h ++ [runtimeStore.event store event])
      (runtimeStore.step store event).2 := by
  rcases kept_step guarded store event present with ⟨created, connection, image⟩ | ⟨was, spared⟩
  · refine ⟨connection, ?_, Since.starts ⟨created, present⟩⟩
    intro other is
    rw [image] at is
    cases is
    rfl
  · obtain ⟨connection, image, since⟩ := backed cpuId generation identity operationId was
    refine ⟨(spared.connection generation).2 connection, ?_, since.lasts ⟨spared.quiet, present⟩⟩
    intro other is
    rcases spared.image other is with before | same
    · exact image other before
    · exact same

/-- A connection that has been opened finds no evidence. -/
theorem kept_opened (guarded : kind.Guarded) {store : RuntimeStateStore} {info : ConnectionInfo}
    {named : info.connectionId ≠ ""} {committed : RuntimeV2Snapshot × List DomainEvent}
    (opened : (runtimeStore.step store (.connectionOpened info named)).1 = .ok committed)
    (cpuId : RuntimeCpuId) :
    kind.kept ((runtimeStore.step store (.connectionOpened info named)).2.targetResources cpuId) =
      none := by
  rcases step_cases store (.connectionOpened info named) with ⟨-, error, raised⟩ | ⟨_, -, done⟩
  · rw [raised] at opened
    cases opened
  · apply Option.eq_none_iff_forall_ne_some.2
    rintro ⟨generation, identity, operationId⟩ present
    rw [done.resources] at present
    rcases guarded _ _ cpuId _ generation identity operationId present with
      ⟨created, -, -⟩ | ⟨-, spares, -⟩
    · cases created
    · exact spares.opened info named rfl

/-- Evidence of a guarded kind is backed by the history at the end of every run. -/
theorem backed_run (guarded : kind.Guarded) (none : ∀ cpuId, kind.kept (TargetResourceState.new cpuId) = none)
    (events : List DomainEvent) :
    ∀ cpuId generation identity operationId,
      kind.kept ((runtimeStore.run .new events).targetResources cpuId) =
        some (generation, identity, operationId) →
      kind.Backed generation identity operationId cpuId (runtimeStore.history .new events)
        (runtimeStore.run .new events) := by
  apply runtimeStore.history_induction .new (fun h store => ∀ cpuId generation identity operationId,
    kind.kept (store.targetResources cpuId) = some (generation, identity, operationId) →
    kind.Backed generation identity operationId cpuId h store)
  · intro cpuId generation identity operationId present
    have empty := none cpuId
    rw [show kind.kept (TargetResourceState.new cpuId) = _ from present] at empty
    cases empty
  · intro h store event backed
    exact backed_step guarded backed event

end EvidenceKind

/-- Evidence in the runtime store: whatever events are dispatched, evidence that is there
is backed by them, and an event on which a policy raises leaves the store as it is. -/
theorem evidence_backed (events : List DomainEvent) :
    (∀ cpuId evidence,
      ((runtimeStore.run .new events).targetResources cpuId).verifyEvidence = some evidence →
      verifyKind.Backed evidence.connectionGeneration evidence.imageIdentity evidence.operationId cpuId
        (runtimeStore.history .new events) (runtimeStore.run .new events)) ∧
    (∀ cpuId evidence,
      ((runtimeStore.run .new events).targetResources cpuId).ramCrcEvidence = some evidence →
      ramCrcKind.Backed evidence.connectionGeneration evidence.ramImageIdentity evidence.operationId
        cpuId (runtimeStore.history .new events) (runtimeStore.run .new events)) ∧
    ∀ ev ∈ runtimeStore.history .new events, ∀ error, ev.output = .error error →
      ev.after = ev.before := by
  refine ⟨?_, ?_, ?_⟩
  · intro cpuId evidence present
    apply EvidenceKind.backed_run verifyKind_guarded (fun _ => rfl) events
    exact congrArg (Option.map _) present
  · intro cpuId evidence present
    apply EvidenceKind.backed_run ramCrcKind_guarded (fun _ => rfl) events
    exact congrArg (Option.map _) present
  · intro ev mem error raised
    rw [runtimeStore.history_event mem] at raised ⊢
    rcases step_cases ev.before ev.input with ⟨-, error, unchanged⟩ | ⟨committed, ok, -⟩
    · exact congrArg Prod.snd unchanged
    · rw [show (runtimeStore.step ev.before ev.input).1 = .error error from raised] at ok
      cases ok

/-- A connection to CPU1, a selected image and a verify of it. -/
example : ((runtimeStore.run .new
    [.connectionOpened ⟨"id", "SCI", "COM3", 0, .cpu1⟩ (by decide),
      .programImageChanged .cpu1 "app.txt" (.ready ⟨⟨0x84000, 8, 1, 0x84008⟩, 4⟩) (by decide),
      .operationSucceeded ⟨⟨"7", by decide⟩, .verify ⟨0x84000, 8, 1, 0x84008⟩, .cpu1, 1⟩]).targetResources
      .cpu1).verifyEvidence = some ⟨1, ⟨0x84000, 8, 1, 0x84008⟩, ⟨"7", by decide⟩⟩ := by decide

end BootUpgrade
