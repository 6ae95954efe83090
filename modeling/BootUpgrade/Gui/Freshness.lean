import BootUpgrade.Gui.Evidence

/-!
# What FRESH in the runtime store stands for

A FRESH memory view is of the active connection. FRESH metadata were read on the
active connection, on which nothing that changes them has started since. A result
that is late changes nothing.
-/

namespace BootUpgrade

open Runs HostImages

/-! ## Memory views -/

/-- A view that is FRESH is of the active connection. -/
def MemoryCurrent (store : RuntimeStateStore) (cpuId : RuntimeCpuId) : Prop :=
  (store.memoryStates cpuId).freshness = .fresh → ∃ memory,
    (store.memoryStates cpuId).retained = some memory ∧
    ActiveConnection cpuId memory.connectionGeneration store.connection

theorem memoryRetained_fresh {connection : Option ConnectionRuntimeState}
    {activeCpu : Option RuntimeCpuId} {cpuId : RuntimeCpuId} {current : MemoryRuntimeState}
    (fresh : (memoryRetained connection activeCpu cpuId current).freshness = .fresh) :
    ∃ memory, (memoryRetained connection activeCpu cpuId current).retained = some memory ∧
      currentConnection cpuId memory.connectionGeneration connection = true := by
  unfold memoryRetained at fresh ⊢
  cases there : current.retained with
  | none =>
    rw [there] at fresh
    have empty := current.empty_iff.2 there
    rw [empty] at fresh
    cases fresh
  | some memory =>
    rw [there] at fresh
    dsimp only at fresh ⊢
    split at fresh
    · rename_i stale
      rw [stale] at fresh
      cases fresh
    split at fresh
    · rename_i other current'
      rw [if_neg other, if_pos current']
      exact ⟨memory, there, current'.2⟩
    · simp [MemoryRuntimeState.stale, there] at fresh

/-- A view that is FRESH behind an event is of the connection, or was FRESH before. -/
theorem memoryAfter_fresh {event : DomainEvent} {connection : Option ConnectionRuntimeState}
    {cpuId : RuntimeCpuId} {current : MemoryRuntimeState}
    (fresh : (memoryAfter event connection cpuId current).freshness = .fresh) :
    (∃ memory, (memoryAfter event connection cpuId current).retained = some memory ∧
      currentConnection cpuId memory.connectionGeneration connection = true) ∨
    (memoryAfter event connection cpuId current = current ∧
      (∀ info named, event ≠ .connectionOpened info named) ∧
      ∀ connectionId closing, event ≠ .connectionClosed connectionId closing) := by
  cases event with
  | connectionOpened info named => exact .inl (memoryRetained_fresh fresh)
  | connectionClosed connectionId closing => exact .inl (memoryRetained_fresh fresh)
  | activeTargetChanged activeCpu => exact .inl (memoryRetained_fresh fresh)
  | sessionChanged => cases fresh
  | memoryCleared cleared =>
    unfold memoryAfter at fresh ⊢
    dsimp only at fresh ⊢
    split at fresh
    · cases fresh
    · rename_i other
      rw [if_neg other]
      exact .inr ⟨rfl, by simp, by simp⟩
  | memoryReadSucceeded target memory =>
    unfold memoryAfter
    dsimp only
    split
    · rename_i now
      obtain ⟨rfl, active⟩ := now
      exact .inl ⟨memory, rfl, active⟩
    · exact .inr ⟨rfl, by simp, by simp⟩
  | memoryReadFailed target generation error =>
    unfold memoryAfter at fresh ⊢
    dsimp only at fresh ⊢
    split at fresh
    · cases there : current.retained <;> simp [MemoryRuntimeState.stale, there] at fresh
    · rename_i other
      rw [if_neg other]
      exact .inr ⟨rfl, by simp, by simp⟩
  | _ => exact .inr ⟨rfl, by simp, by simp⟩

theorem memoryCurrent_step (store : RuntimeStateStore) (event : DomainEvent) (cpuId : RuntimeCpuId)
    (current : MemoryCurrent store cpuId) :
    MemoryCurrent (runtimeStore.step store event).2 cpuId := by
  rcases step_cases store event with ⟨-, error, raised⟩ | ⟨committed, -, done⟩
  · rw [raised]
    exact current
  · intro fresh
    rw [done.memory] at fresh ⊢
    rcases memoryAfter_fresh fresh with ⟨memory, there, active⟩ | ⟨same, opened, closed⟩
    · exact ⟨memory, there, currentConnection_iff.1 active⟩
    · rw [same] at fresh ⊢
      obtain ⟨memory, there, active⟩ := current fresh
      exact ⟨memory, there, (done.connection.active_iff opened closed _ _).2 active⟩

/-! ## Metadata -/

/-- The event starts something on the connection that changes the metadata. -/
def changesMetadata (cpuId : RuntimeCpuId) (generation : Nat) : DomainEvent → Bool
  | .metadataWriteStarted _ target current _ => target = cpuId && current = generation
  | .operationStarted started =>
    started.operation.writesFlash && (started.cpuId = cpuId && started.connectionGeneration = generation)
  | _ => false

/-- The event is a metadata read of the connection that has succeeded. -/
def readsMetadata (cpuId : RuntimeCpuId) (generation : Nat) : DomainEvent → Bool
  | .metadataReadSucceeded target current _ _ => target = cpuId && current = generation
  | _ => false

/-- FRESH metadata were read on the active connection, which has been active since and on
which nothing has started since that changes them. -/
def MetadataCurrent (h : List StoreEvent) (store : RuntimeStateStore) : Prop :=
  store.metadataState.freshness = .fresh → ∃ cpuId generation,
    ActiveConnection cpuId generation store.connection ∧
    Since
      (fun _ ev => readsMetadata cpuId generation ev.input = true ∧
        ActiveConnection cpuId generation ev.after.connection ∧
        ev.after.metadataState.freshness = .fresh)
      (fun ev => changesMetadata cpuId generation ev.input = false ∧
        ActiveConnection cpuId generation ev.after.connection ∧
        ev.after.metadataState.freshness = .fresh) h

/-- Metadata that are FRESH behind an event were just read, or were FRESH before. -/
theorem metadataAfter_fresh {event : DomainEvent} {connection : Option ConnectionRuntimeState}
    {current after : MetadataRuntimeState} (done : metadataAfter event connection current = .ok after)
    (fresh : after.freshness = .fresh) :
    (∃ cpuId generation, readsMetadata cpuId generation event = true ∧
      currentConnection cpuId generation connection = true) ∨
    (after = current ∧ (∀ info named, event ≠ .connectionOpened info named) ∧
      (∀ connectionId closing, event ≠ .connectionClosed connectionId closing) ∧
      ∀ cpuId generation, currentConnection cpuId generation connection = true →
        changesMetadata cpuId generation event = false) := by
  cases event with
  | connectionOpened | connectionClosed | activeTargetChanged | sessionChanged =>
    cases done
    cases fresh
  | metadataReadSucceeded cpuId generation value present =>
    unfold metadataAfter at done
    dsimp only at done
    split at done
    · rename_i active
      exact .inl ⟨cpuId, generation, by simp [readsMetadata], active⟩
    · cases done
      exact .inr ⟨rfl, by simp, by simp, fun _ _ _ => rfl⟩
  | metadataReadFailed cpuId generation error =>
    cases done
    split at fresh
    · unfold MetadataRuntimeState.failed at fresh
      dsimp only at fresh
      split at fresh <;> cases fresh
    · rename_i other
      rw [if_neg other]
      exact .inr ⟨rfl, by simp, by simp, fun _ _ _ => rfl⟩
  | metadataWriteStarted operationId cpuId generation image =>
    cases done
    split at fresh
    · cases fresh
    · rename_i other
      rw [if_neg other]
      refine .inr ⟨rfl, by simp, by simp, ?_⟩
      intro target current' active
      apply Bool.eq_false_iff.2
      intro changes
      simp only [changesMetadata, Bool.and_eq_true, decide_eq_true_eq] at changes
      obtain ⟨rfl, rfl⟩ := changes
      exact other active
  | operationStarted started =>
    cases done
    split at fresh
    · cases fresh
    · rename_i other
      rw [if_neg other]
      refine .inr ⟨rfl, by simp, by simp, ?_⟩
      intro target current' active
      apply Bool.eq_false_iff.2
      intro changes
      simp only [changesMetadata, Bool.and_eq_true, decide_eq_true_eq] at changes other
      obtain ⟨writes, rfl, rfl⟩ := changes
      exact other ⟨writes, active⟩
  | _ =>
    cases done
    exact .inr ⟨rfl, by simp, by simp, fun _ _ _ => rfl⟩

theorem metadataCurrent_step {h : List StoreEvent} {store : RuntimeStateStore}
    (current : MetadataCurrent h store) (event : DomainEvent) :
    MetadataCurrent (h ++ [runtimeStore.event store event]) (runtimeStore.step store event).2 := by
  intro fresh
  rcases step_cases store event with ⟨may, error, raised⟩ | ⟨committed, -, done⟩
  · have same : (runtimeStore.step store event).2 = store := congrArg Prod.snd raised
    rw [same] at fresh ⊢
    obtain ⟨cpuId, generation, active, since⟩ := current fresh
    have quiet : changesMetadata cpuId generation event = false := by
      cases event with
      | metadataWriteStarted | operationStarted => cases may
      | _ => rfl
    refine ⟨cpuId, generation, active, since.lasts ⟨quiet, ?_, ?_⟩⟩
    · rwa [← same] at active
    · rwa [← same] at fresh
  · rcases metadataAfter_fresh done.metadata fresh with
      ⟨cpuId, generation, reads, active⟩ | ⟨same, opened, closed, quiet⟩
    · have now := currentConnection_iff.1 active
      exact ⟨cpuId, generation, now, Since.starts ⟨reads, now, fresh⟩⟩
    · have before := fresh
      rw [same] at before
      obtain ⟨cpuId, generation, was, since⟩ := current before
      have now := (done.connection.active_iff opened closed cpuId generation).2 was
      exact ⟨cpuId, generation, now,
        since.lasts ⟨quiet _ _ (currentConnection_iff.2 now), now, fresh⟩⟩

/-! ## Late results -/

/-- The connection generation of a result. -/
def resultGeneration : DomainEvent → Option Nat
  | .metadataReadSucceeded _ generation _ _ | .metadataReadFailed _ generation _
  | .diagnosticReadSucceeded _ generation _ _ _ | .diagnosticReadFailed _ generation _ _
  | .memoryReadFailed _ generation _ => some generation
  | .memoryReadSucceeded _ memory => some memory.connectionGeneration
  | .operationSucceeded operation | .operationFailed operation _ =>
    some operation.connectionGeneration
  | _ => none

/-- A result of another generation than that of the active connection changes no view,
no metadata and no diagnostics. -/
theorem late_step (store : RuntimeStateStore) {event : DomainEvent} {generation : Nat}
    (result : resultGeneration event = some generation)
    (late : ∀ cpuId, ¬ ActiveConnection cpuId generation store.connection) :
    (runtimeStore.step store event).2.memoryStates = store.memoryStates ∧
      (runtimeStore.step store event).2.metadataState = store.metadataState ∧
      (runtimeStore.step store event).2.diagnosticsState = store.diagnosticsState := by
  rcases step_cases store event with ⟨-, error, raised⟩ | ⟨committed, -, done⟩
  · rw [raised]
    exact ⟨rfl, rfl, rfl⟩
  have opened : ∀ info named, event ≠ .connectionOpened info named := by
    rintro info named rfl
    cases result
  have closed : ∀ connectionId closing, event ≠ .connectionClosed connectionId closing := by
    rintro connectionId closing rfl
    cases result
  have absent : ∀ cpuId, ¬ currentConnection cpuId generation
      (runtimeStore.step store event).2.connection = true := by
    intro cpuId active
    exact late cpuId ((done.connection.active_iff opened closed _ _).1 (currentConnection_iff.1 active))
  obtain ⟨-, memory, metadata, diagnostics, -, -⟩ := done
  generalize (runtimeStore.step store event).2 = after at absent memory metadata diagnostics ⊢
  refine ⟨funext fun cpuId => (memory cpuId).trans ?_, ?_, ?_⟩
  · cases event with
    | memoryReadSucceeded target read =>
      cases result
      exact if_neg fun now => absent target now.2
    | memoryReadFailed target current error =>
      cases result
      exact if_neg fun now => absent target now.2
    | metadataReadSucceeded | metadataReadFailed | diagnosticReadSucceeded | diagnosticReadFailed
    | operationSucceeded | operationFailed => rfl
    | _ => cases result
  · cases event with
    | metadataReadSucceeded target current value present =>
      cases result
      rw [metadataAfter, if_neg (absent target)] at metadata
      exact (Except.ok.inj metadata).symm
    | metadataReadFailed target current error =>
      cases result
      rw [metadataAfter, if_neg (absent target)] at metadata
      exact (Except.ok.inj metadata).symm
    | memoryReadSucceeded | memoryReadFailed | diagnosticReadSucceeded | diagnosticReadFailed
    | operationSucceeded | operationFailed =>
      exact (Except.ok.inj metadata).symm
    | _ => cases result
  · cases event with
    | diagnosticReadSucceeded target current group value present =>
      cases result
      rw [diagnosticsAfter, if_neg (absent target)] at diagnostics
      exact (Except.ok.inj diagnostics).symm
    | diagnosticReadFailed target current group error =>
      cases result
      unfold diagnosticsAfter at diagnostics
      rw [← Except.ok.inj diagnostics]
      exact funext fun other => if_neg fun now => absent target now.2
    | memoryReadSucceeded | memoryReadFailed | metadataReadSucceeded | metadataReadFailed
    | operationSucceeded | operationFailed =>
      exact (Except.ok.inj diagnostics).symm
    | _ => cases result

/-! ## The invariant -/

/-- FRESH in the runtime store: whatever events are dispatched, a FRESH memory view and
FRESH metadata are of the active connection, nothing has started on it since the
metadata were read that changes them, and a late result makes nothing FRESH. -/
theorem freshness_current (events : List DomainEvent) :
    (∀ cpuId, MemoryCurrent (runtimeStore.run .new events) cpuId) ∧
    MetadataCurrent (runtimeStore.history .new events) (runtimeStore.run .new events) ∧
    ∀ ev ∈ runtimeStore.history .new events, ∀ generation,
      resultGeneration ev.input = some generation →
      (∀ cpuId, ¬ ActiveConnection cpuId generation ev.before.connection) →
      ev.after.memoryStates = ev.before.memoryStates ∧
        ev.after.metadataState = ev.before.metadataState ∧
        ev.after.diagnosticsState = ev.before.diagnosticsState := by
  refine ⟨?_, ?_, ?_⟩
  · intro cpuId
    apply runtimeStore.run_induction (fun store => MemoryCurrent store cpuId)
    · intro fresh
      cases fresh
    · intro store event current
      exact memoryCurrent_step store event cpuId current
  · apply runtimeStore.history_induction .new MetadataCurrent
    · intro fresh
      cases fresh
    · intro h store event current
      exact metadataCurrent_step current event
  · intro ev mem generation result late
    rw [runtimeStore.history_event mem] at result late ⊢
    exact late_step ev.before result late

end BootUpgrade
