import BootUpgrade.Gui.RuntimeBackend

/-!
# Images and the service, as the backend prepares them

The selection of the Program image and of the RAM image of each target, how they
are read and checked against what is expected of them, and the preparation of
the Flash service.
-/

namespace BootUpgrade

open HostImages

namespace RuntimeBackend

open Procedure

/-! ## Selected images -/

/-- The Program image or the RAM image of each target: where its revision, its path and its
parse state are kept and which event changes them. -/
structure ImageSlot (S : Type) where
  label : String
  revision : RuntimeBackend → RuntimeCpuId → Nat
  setRevision : RuntimeCpuId → Nat → RuntimeBackend → RuntimeBackend
  path : {cpuId : RuntimeCpuId} → TargetResourceState cpuId → String
  image : {cpuId : RuntimeCpuId} → TargetResourceState cpuId → ImageParse S
  changed : (cpuId : RuntimeCpuId) → (path : String) → (image : ImageParse S) →
    (image ≠ .empty → path ≠ "") → DomainEvent

def programSlot : ImageSlot FlashImageSummary where
  label := "Program"
  revision b := b.programImageRevisions
  setRevision cpuId revision b :=
    { b with programImageRevisions := fun other =>
        if other = cpuId then revision else b.programImageRevisions other }
  path resource := resource.programImagePath
  image resource := resource.programImage
  changed := .programImageChanged

def ramSlot : ImageSlot RamImageSummary where
  label := "RAM"
  revision b := b.ramImageRevisions
  setRevision cpuId revision b :=
    { b with ramImageRevisions := fun other =>
        if other = cpuId then revision else b.ramImageRevisions other }
  path resource := resource.ramImagePath
  image resource := resource.ramImage
  changed := .ramImageChanged

section
variable {S : Type} [DecidableEq S] (slot : ImageSlot S)

def resourcePath (b : RuntimeBackend) (cpuId : RuntimeCpuId) : String :=
  slot.path (b.store.targetResources cpuId)

def resourceImage (b : RuntimeBackend) (cpuId : RuntimeCpuId) : ImageParse S :=
  slot.image (b.store.targetResources cpuId)

/-- Dispatch the event of the slot; its constructor asks for a path. -/
def dispatchImage (cpuId : RuntimeCpuId) (path : String) (image : ImageParse S) :
    BackendProcedure Unit :=
  if named : image ≠ .empty → path ≠ "" then dispatch (slot.changed cpuId path image named)
  else raise (.raised (.valueError "image state requires a non-empty path"))

/-- `set_program_image_path` and `set_ram_image_path`. -/
def setImagePath (cpuId : RuntimeCpuId) (path : String) : BackendProcedure Unit := do
  let previous ← read fun b => slot.revision b cpuId
  update (slot.setRevision cpuId (previous + 1))
  match ← (dispatchImage slot cpuId path .empty).attempt with
  | .ok () => pure ()
  | .error error => do
    update (slot.setRevision cpuId previous)
    raise error

-- `str(Path(path.strip()).expanduser().resolve())`, where it does not raise.
variable (normalized : String → Option String)

/-- The selection is the one of the request. -/
def sameSelection (b : RuntimeBackend) (cpuId : RuntimeCpuId) (sourcePath : String)
    (selectionRevision : Nat) : Bool :=
  (normalized sourcePath).isSome &&
    normalized sourcePath == normalized (resourcePath slot b cpuId) &&
    selectionRevision == slot.revision b cpuId

/-- `_begin_program_image_parse` and `_begin_ram_image_parse`. -/
def beginImageParse (cpuId : RuntimeCpuId) (sourcePath : String) (selectionRevision : Nat) :
    BackendProcedure Unit := do
  let same ← read fun b => sameSelection slot normalized b cpuId sourcePath selectionRevision
  require same (.raised (.runtimeError (slot.label ++ " image selection changed")))
  let path ← read fun b => resourcePath slot b cpuId
  dispatchImage slot cpuId path .parsing

/-- `_fail_program_image_parse` and `_fail_ram_image_parse`. -/
def failImageParse (cpuId : RuntimeCpuId) (sourcePath : String) (selectionRevision : Nat)
    (code message : String) : BackendProcedure Unit := do
  require (code != "" && message != "")
    (.raised (.valueError "code and message must be non-empty strings"))
  let same ← read fun b => sameSelection slot normalized b cpuId sourcePath selectionRevision
  let path ← read fun b => resourcePath slot b cpuId
  if same then
    dispatchImage slot cpuId path (.error ⟨"Code: " ++ code ++ "\n" ++ message, by simp⟩)
  else pure ()

end

/-! ## Reading images -/

/-- What the files of an App image make of its preparation. -/
structure AppFiles (I : Type) where
  before : Except ImagePreparationFailure SourceFileFingerprint
  prepared : Except ImagePreparationFailure I
  after : Except ImagePreparationFailure SourceFileFingerprint

/-- `_validate_target_profile`. -/
def validateTargetProfile (targetKey : RuntimeCpuId) (profile : TargetProfile) :
    Except ImagePreparationFailure Unit :=
  if profile.cpuId ≠ targetKey.number then
    .error (.of "TARGET_PROFILE_MISMATCH" "Target Profile CPU does not match the target")
  else .ok ()

/-- The body of `_materialize_flash_app` and `_materialize_ram_app`: the file is the same
before and after, and the image is the one that is expected. -/
def materializeApp {I : Type} (targetKey : RuntimeCpuId) (profile : TargetProfile)
    (files : AppFiles I) (expected : I → Bool) (changed : String) :
    Except ImagePreparationFailure (I × SourceFileFingerprint) := do
  validateTargetProfile targetKey profile
  let before ← files.before
  let prepared ← files.prepared
  let after ← files.after
  if before ≠ after then
    throw (.of "IMAGE_CHANGED_DURING_PREPARATION" "The source image changed during preparation")
  else if !expected prepared then throw (.of "IMAGE_CHANGED" changed)
  else return (prepared, after)

/-- The failure of `_resolve_local_image` as `_materialize_flash_app` reports it. -/
def ImagePreparationFailure.unresolved (failure : ImagePreparationFailure) :
    ImagePreparationFailure :=
  if failure.code = "IMAGE_FILE_NOT_FOUND" then .of "IMAGE_FILE_ACCESS_FAILED" failure.message
  else failure

/-- `_materialize_flash_app`; a preparation expects nothing of the image. -/
def materializeFlashApp (targetKey : RuntimeCpuId) (profile : TargetProfile)
    (files : AppFiles PreparedFlashImage) (expected : Option (ImageIdentity × Nat)) :
    Except ImagePreparationFailure (PreparedFlashImage × SourceFileFingerprint) :=
  materializeApp targetKey profile
    { files with before := files.before.mapError ImagePreparationFailure.unresolved }
    (fun prepared => expected.all fun (identity, sectorMask) =>
      prepared.identity == identity && prepared.sectorMask == sectorMask)
    "The Flash App no longer matches the selected Program image"

/-- `_materialize_ram_app`. -/
def materializeRamApp (targetKey : RuntimeCpuId) (profile : TargetProfile)
    (files : AppFiles PreparedRamImage) (expected : Option RamImageIdentity) :
    Except ImagePreparationFailure (PreparedRamImage × SourceFileFingerprint) :=
  materializeApp targetKey profile files
    (fun prepared => expected.all fun identity => prepared.identity == identity)
    "The RAM App no longer matches the selected RAM image"

/-! ## Preparing images -/

/-- `PrepareFlashImageRequest` and `PrepareRamImageRequest`; `profile` is what
`_resolve_target_profile` makes of the target. -/
structure PrepareImageRequest where
  targetKey : RuntimeCpuId
  sourcePath : String
  selectionRevision : Nat

section
variable (normalized : String → Option String)

/-- `_prepare_flash_image` up to the preparation: the first image of a target is selected by
the request itself. -/
def adoptFlashImage (request : PrepareImageRequest) : BackendProcedure Unit := do
  let unselected ← read fun b => resourceImage programSlot b request.targetKey == .empty &&
    resourcePath programSlot b request.targetKey == ""
  let revision ← read fun b => programSlot.revision b request.targetKey
  if unselected then
    if revision ≠ 0 then
      fail "IMAGE_SELECTION_CHANGED" "The selected image changed before preparation started"
    else do
      update (programSlot.setRevision request.targetKey request.selectionRevision)
      dispatchImage programSlot request.targetKey request.sourcePath .parsing
  else pure ()

def beginFlashImage (request : PrepareImageRequest) (requestPath : String) :
    BackendProcedure Unit := do
  let parsing ← read fun b => resourceImage programSlot b request.targetKey == .parsing
  if parsing then pure ()
  else beginImageParse programSlot normalized request.targetKey requestPath request.selectionRevision

/-- `_normalized_program_path` and `_normalized_ram_path` of a request. -/
def requestPath (request : PrepareImageRequest) (message : String) : BackendProcedure String :=
  check fun _ =>
    match normalized request.sourcePath with
    | some path => .ok path
    | none => .error (.preparation (.of "INVALID_IMAGE_PATH" message))

/-- `_prepare_flash_image`. -/
def prepareFlashImage (request : PrepareImageRequest)
    (profile : Except ImagePreparationFailure TargetProfile) (files : AppFiles PreparedFlashImage) :
    BackendProcedure Unit := do
  let path ← requestPath normalized request "Image path must not be empty"
  adoptFlashImage request
  let selected ← read fun b => sameSelection programSlot normalized b request.targetKey
    request.sourcePath request.selectionRevision
  require selected (.preparation
    (.of "IMAGE_SELECTION_CHANGED" "The selected image changed before preparation started"))
  beginFlashImage normalized request path
  let (prepared, _) ← check fun _ => (do
    let profile ← profile
    materializeFlashApp request.targetKey profile files none).mapError .preparation
  let selected ← read fun b => sameSelection programSlot normalized b request.targetKey
    request.sourcePath request.selectionRevision
  require selected (.preparation
    (.of "IMAGE_SELECTION_CHANGED" "The selected image changed during preparation"))
  let current ← read fun b => resourcePath programSlot b request.targetKey
  dispatchImage programSlot request.targetKey current
    (.ready ⟨prepared.identity, prepared.sectorMask⟩)

/-- A first RAM image is selected by the request itself. -/
def adoptRamImage (request : PrepareImageRequest) : BackendProcedure Unit := do
  let unselected ← read fun b => ramSlot.revision b request.targetKey == 0 &&
    request.selectionRevision == 0 && resourceImage ramSlot b request.targetKey == .empty &&
    resourcePath ramSlot b request.targetKey == ""
  if unselected then dispatchImage ramSlot request.targetKey request.sourcePath .parsing
  else pure ()

/-- `_prepare_ram_image`. -/
def prepareRamImage (request : PrepareImageRequest)
    (profile : Except ImagePreparationFailure TargetProfile) (files : AppFiles PreparedRamImage) :
    BackendProcedure Unit := do
  let _ ← requestPath normalized request "RAM image path must not be empty"
  adoptRamImage request
  let selected ← read fun b => sameSelection ramSlot normalized b request.targetKey
    request.sourcePath request.selectionRevision &&
      resourceImage ramSlot b request.targetKey == .parsing
  require selected
    (.preparation (.of "IMAGE_SELECTION_CHANGED" "The RAM image selection changed"))
  let (prepared, _) ← check fun _ => (do
    let profile ← profile
    materializeRamApp request.targetKey profile files none).mapError .preparation
  let selected ← read fun b => sameSelection ramSlot normalized b request.targetKey
    request.sourcePath request.selectionRevision
  require selected (.preparation
    (.of "IMAGE_SELECTION_CHANGED" "The RAM image selection changed during preparation"))
  let current ← read fun b => resourcePath ramSlot b request.targetKey
  dispatchImage ramSlot request.targetKey current (.ready ⟨prepared.identity⟩)

/-- `execute` of a `PrepareFlashImageRequest`. -/
def executePrepareFlashImage (request : PrepareImageRequest)
    (profile : Except ImagePreparationFailure TargetProfile) (files : AppFiles PreparedFlashImage) :
    BackendProcedure Unit :=
  onPreparationFailure (prepareFlashImage normalized request profile files) fun failure =>
    failImageParse programSlot normalized request.targetKey request.sourcePath
      request.selectionRevision failure.code
      (if failure.message = "" then failure.code else failure.message)

/-- `execute` of a `PrepareRamImageRequest`. -/
def executePrepareRamImage (request : PrepareImageRequest)
    (profile : Except ImagePreparationFailure TargetProfile) (files : AppFiles PreparedRamImage) :
    BackendProcedure Unit :=
  onPreparationFailure (prepareRamImage normalized request profile files) fun failure =>
    failImageParse ramSlot normalized request.targetKey request.sourcePath
      request.selectionRevision failure.code
      (if failure.message = "" then failure.code else failure.message)

end

/-! ## Preparing the service -/

/-- What the files of the service make of its preparation. -/
structure ServiceFiles where
  imagePath : String
  mapPath : String
  imageBefore : SourceFileFingerprint
  mapBefore : SourceFileFingerprint
  imageAfter : SourceFileFingerprint
  mapAfter : SourceFileFingerprint
  imageSourceKind : ImageSourceKind
  prepared : PreparedServiceImage
  hex2000Source : Hex2000Source
  hex2000Executable : Option String

/-- `_service_identity_matches`; the tool that has converted the image does not count. -/
def serviceIdentityMatches (expected : Option PreparedFlashServiceSummary)
    (actual : PreparedFlashServiceSummary) : Bool :=
  match expected with
  | none => false
  | some expected => { expected with
      toolConfigurationRevision := actual.toolConfigurationRevision
      hex2000Source := actual.hex2000Source
      hex2000Executable := actual.hex2000Executable } == actual

/-- The summary of `_materialize_flash_service`. -/
def ServiceFiles.summary (files : ServiceFiles) (targetKey : RuntimeCpuId) (providerName : String)
    (revision configurationRevision : Nat) : PreparedFlashServiceSummary where
  targetKey := targetKey
  providerName := providerName
  serviceImagePath := files.imageAfter.resolvedPath
  serviceMapPath := files.mapAfter.resolvedPath
  resourceRevision := revision
  toolConfigurationRevision := configurationRevision
  imageSourceKind := files.imageSourceKind
  imageFingerprint := files.imageAfter
  mapFingerprint := files.mapAfter
  headerAddress := files.prepared.headerAddress
  totalWords := files.prepared.totalWords
  expectedCrc32 := files.prepared.expectedCrc32
  requiredCapabilities := files.prepared.requiredCapabilities
  hex2000Source := files.hex2000Source
  hex2000Executable := files.hex2000Executable

/-- `_materialize_flash_service`. -/
def materializeFlashService (b : RuntimeBackend) (targetKey : RuntimeCpuId) (profile : TargetProfile)
    (files : Except ImagePreparationFailure ServiceFiles)
    (expectedState : Option FlashServiceResourceState) :
    Except ImagePreparationFailure (PreparedServiceImage × PreparedFlashServiceSummary) := do
  validateTargetProfile targetKey profile
  let some providerName := b.providerName
    | throw (.of "APP_RESOURCE_PROVIDER_REQUIRED" "No AppResourceProvider is configured")
  let files ← files
  if files.imageBefore ≠ files.imageAfter ∨ files.mapBefore ≠ files.mapAfter then
    throw (.of "SERVICE_CHANGED_DURING_PREPARATION"
      "A Flash Service input changed during preparation")
  else
    let state := expectedState.getD b.flashServiceResourceState
    let summary := files.summary targetKey providerName state.revision b.configurationRevision
    if expectedState.any fun expected => !serviceIdentityMatches expected.summary summary then
      throw {
        code := "SERVICE_RESOURCE_CHANGED"
        message := "Flash Service resources changed after validation"
        imagePath := files.imagePath
        mapPath := files.mapPath
        commitServiceState := true }
    else return (files.prepared, summary)

/-- The status that a failure of the preparation leads to. -/
def failedResource (failure : ImagePreparationFailure) : FlashServiceResource :=
  if failure.code ∈ ["SERVICE_RESOURCE_CHANGED", "SERVICE_CHANGED_DURING_PREPARATION"] then
    .stale failure.code failure.message
  else if failure.code ∈ ["APP_RESOURCE_PROVIDER_REQUIRED", "AppResourceConfigurationError",
      "AppResourceNotFoundError", "IMAGE_FILE_NOT_FOUND", "SERVICE_FILE_ACCESS_FAILED"] then
    .unavailable failure.code failure.message
  else .error failure.code failure.message

theorem failedResource_not_ready (failure : ImagePreparationFailure) :
    (failedResource failure).isReady = false := by
  unfold failedResource
  split
  · rfl
  · split <;> rfl

/-- `_set_service_failure_state`. -/
def setServiceFailureState (failure : ImagePreparationFailure) (expectedRevision : Nat) :
    BackendProcedure Unit :=
  update fun b =>
    let state := b.flashServiceResourceState
    if state.revision ≠ expectedRevision then b
    else { b with
      flashServiceResourceState :=
        .notReady (state.revision + 1) state.providerName (failure.imagePath <|> state.imagePath)
          (failure.mapPath <|> state.mapPath) (failedResource failure)
          (failedResource_not_ready failure) }

/-- `PrepareFlashServiceRequest`. -/
structure PrepareFlashServiceRequest where
  targetKey : RuntimeCpuId
  resourceRevision : Nat
  toolConfigurationRevision : Nat
  cpu1_only : targetKey = .cpu1

/-- `_prepare_flash_service`. -/
def prepareFlashService (request : PrepareFlashServiceRequest)
    (profile : Except ImagePreparationFailure TargetProfile)
    (files : Except ImagePreparationFailure ServiceFiles) : BackendProcedure Unit := do
  let state ← read fun b => b.flashServiceResourceState
  let same ← read fun b => request.resourceRevision == state.revision &&
    request.toolConfigurationRevision == b.configurationRevision
  require same (.preparation {
    ImagePreparationFailure.of "SERVICE_CONFIGURATION_CHANGED" "The Flash Service inputs changed" with
    commitServiceState := false })
  require (state.imagePath.isSome && state.mapPath.isSome)
    (.preparation (missingResources state))
  let profile ← check fun _ => profile.mapError .preparation
  update fun b => { b with
    flashServiceResourceState :=
      .notReady state.revision state.providerName state.imagePath state.mapPath .unvalidated rfl }
  let (_, summary) ← check fun b =>
    (materializeFlashService b request.targetKey profile files none).mapError .preparation
  require (summary.providerName == state.providerName &&
      state.imagePath == some summary.serviceImagePath && state.mapPath == some summary.serviceMapPath)
    (.preparation {
      code := "SERVICE_RESOURCE_CHANGED"
      message := "Flash Service provider paths changed during validation"
      imagePath := summary.serviceImagePath
      mapPath := summary.serviceMapPath
      commitServiceState := true })
  -- A service that is not the one before gets a revision of its own.
  let summary := if state.summary.isSome && !serviceIdentityMatches state.summary summary then
    { summary with resourceRevision := state.revision + 1 } else summary
  update fun b => { b with flashServiceResourceState := .ofSummary summary }
where
  missingResources (state : FlashServiceResourceState) : ImagePreparationFailure :=
    let (code, message) : String × String :=
      match state.resource with
      | .unavailable code message | .error code message | .stale code message => (code, message)
      | _ => ("APP_RESOURCE_PROVIDER_REQUIRED", "Flash Service resources are unavailable")
    ⟨code, message, state.imagePath, state.mapPath, true⟩

/-- `execute` of a `PrepareFlashServiceRequest`. -/
def executePrepareFlashService (request : PrepareFlashServiceRequest)
    (profile : Except ImagePreparationFailure TargetProfile)
    (files : Except ImagePreparationFailure ServiceFiles) : BackendProcedure Unit :=
  onPreparationFailure (prepareFlashService request profile files) fun failure =>
    if failure.commitServiceState then setServiceFailureState failure request.resourceRevision
    else pure ()

/-! ## Settings -/

/-- `set_image_tool_paths`, when a path is another one. -/
def setImageToolPaths : BackendProcedure Unit :=
  update fun b => { b with configurationRevision := b.configurationRevision + 1 }

/-- `_refresh_flash_service_resources_locked`; `paths` is what the provider answers. -/
def refreshFlashServiceResources (paths : Except ImagePreparationFailure (String × String)) :
    BackendProcedure Unit :=
  update fun b =>
    let previous := b.flashServiceResourceState
    { b with
      flashServiceResourceState :=
        match b.providerName, paths with
        | none, _ =>
          .notReady previous.revision "Unconfigured" none none (.unavailable
            "APP_RESOURCE_PROVIDER_REQUIRED" "No AppResourceProvider is configured")
            FlashServiceResourceState.unconfigured_not_ready
        | some provider, .error failure =>
          let imagePath := failure.imagePath <|> previous.imagePath
          let mapPath := failure.mapPath <|> previous.mapPath
          let changed := !previous.resource.isUnavailable || previous.providerName != provider ||
            previous.imagePath != imagePath || previous.mapPath != mapPath
          .notReady (previous.revision + changed.toNat) provider imagePath mapPath
            (.unavailable failure.code failure.message) rfl
        | some provider, .ok (imagePath, mapPath) =>
          let unchanged := previous.providerName == provider &&
            previous.imagePath == some imagePath && previous.mapPath == some mapPath
          if unchanged && previous.resource.isReady then previous
          else .notReady
            (previous.revision + (!unchanged || previous.resource.isUnavailable).toNat) provider
            imagePath mapPath .unvalidated rfl }

/-- `configure_app_resource_provider`, of a provider that is not the one before. -/
def configureAppResourceProvider (provider : String)
    (paths : Except ImagePreparationFailure (String × String)) : BackendProcedure Unit := do
  let configured ← read fun b => b.providerName.isSome
  require (!configured)
    (.raised (.runtimeError "RuntimeBackend AppResourceProvider cannot be replaced"))
  let previous ← read fun b => b.flashServiceResourceState
  update fun b => { b with providerName := provider }
  if notReady : previous.resource.isReady = false then do
    update fun b => { b with
      flashServiceResourceState :=
        .notReady (previous.revision + 1) provider previous.imagePath previous.mapPath
          previous.resource notReady }
    refreshFlashServiceResources paths
  else raise (.raised (.valueError "READY summary provider and revision must match resource state"))

end RuntimeBackend

end BootUpgrade
