import BootUpgrade.Gui.RuntimeModels
import BootUpgrade.Lib.PyText
import BootUpgrade.Lib.PyValues

/-!
# The persistent documents

The frozen dataclasses of `persistence_models`. Their constructors normalise
what they are given: nested values are frozen, paths are stripped or resolved,
recent sessions are deduplicated, ordered and truncated. A document carries
what its constructor has established.
-/

namespace BootUpgrade.Persistence

/-- What a constructor or a library call raises. -/
inductive PyError where
  | typeError (message : String)
  | valueError (message : String)
  | keyError (key : String)
  | other (message : String)
  deriving DecidableEq, Repr

def PyError.message : PyError → String
  | .typeError message | .valueError message | .keyError message | .other message => message

def sessionSchemaVersion : Int := 1

def globalSettingsSchemaVersion : Int := 3

def runtimeCacheSchemaVersion : Int := 1

def maxRecentSessions : Nat := 10

/-! ## Frozen values -/

mutual

/-- `_freeze_json`. -/
def freezeJson (name : String) : PyValue → Except PyError PyValue
  | .none => .ok .none
  | .bool value => .ok (.bool value)
  | .int value => .ok (.int value)
  | .str value => .ok (.str value)
  | .float value =>
    if value.isFinite then .ok (.float value)
    else .error (.typeError (name ++ " contains an unsupported JSON float"))
  | .list items => (freezeJsonItems name items).map .tuple
  | .tuple items => (freezeJsonItems name items).map .tuple
  | .mapping fields =>
    (freezeJsonFields name fields).map fun frozen => .mapping (PyDict.ofItems frozen)
  | .other typeName =>
    .error (.typeError (name ++ " contains an unsupported JSON value: " ++ typeName))

def freezeJsonItems (name : String) : List PyValue → Except PyError (List PyValue)
  | [] => .ok []
  | item :: items =>
    match freezeJson name item with
    | .error error => .error error
    | .ok frozen => (freezeJsonItems name items).map (frozen :: ·)

def freezeJsonFields (name : String) : PyFields → Except PyError PyFields
  | [] => .ok []
  | (.other _, _) :: _ => .error (.typeError (name ++ " mapping keys must be strings"))
  | (.str key, item) :: fields =>
    match freezeJson name item with
    | .error error => .error error
    | .ok frozen => (freezeJsonFields name fields).map ((.str key, frozen) :: ·)

end

mutual

/-- A value that nobody can change and that a JSON text can carry. -/
def Frozen : PyValue → Prop
  | .none | .bool _ | .int _ | .str _ => True
  | .float value => value.isFinite = true
  | .tuple items => FrozenItems items
  | .mapping fields => (fields.map Prod.fst).Nodup ∧ FrozenFields fields
  | .list _ | .other _ => False

def FrozenItems : List PyValue → Prop
  | [] => True
  | item :: items => Frozen item ∧ FrozenItems items

def FrozenFields : PyFields → Prop
  | [] => True
  | (key, value) :: fields => ((∃ text, key = .str text) ∧ Frozen value) ∧ FrozenFields fields

end

theorem frozenItems_iff {items : List PyValue} :
    FrozenItems items ↔ ∀ item ∈ items, Frozen item := by
  induction items with
  | nil => simp [FrozenItems]
  | cons item items ih => simp [FrozenItems, ih]

theorem frozenFields_iff {fields : PyFields} :
    FrozenFields fields ↔ ∀ item ∈ fields, (∃ text, item.1 = .str text) ∧ Frozen item.2 := by
  induction fields with
  | nil => simp [FrozenFields]
  | cons item fields ih =>
    obtain ⟨key, value⟩ := item
    simp only [FrozenFields, ih, List.forall_mem_cons]

theorem frozenFields_ofItems {fields : PyFields} (frozen : FrozenFields fields) :
    FrozenFields (PyDict.ofItems fields) :=
  frozenFields_iff.2 fun item mem => frozenFields_iff.1 frozen item (PyDict.mem_ofItems mem)

mutual

theorem freezeJson_frozen {name : String} {value frozen : PyValue}
    (h : freezeJson name value = .ok frozen) : Frozen frozen := by
  cases value with
  | none | bool | int | str =>
    cases h
    trivial
  | float value =>
    rw [freezeJson] at h
    split at h
    next finite =>
      cases h
      exact finite
    next => cases h
  | list items | tuple items =>
    rw [freezeJson] at h
    cases result : freezeJsonItems name items with
    | error error => simp [result, Except.map] at h
    | ok items =>
      rw [result] at h
      cases h
      exact freezeJsonItems_frozen result
  | mapping fields =>
    rw [freezeJson] at h
    cases result : freezeJsonFields name fields with
    | error error => simp [result, Except.map] at h
    | ok fields =>
      rw [result] at h
      cases h
      exact ⟨PyDict.ofItems_nodup _, frozenFields_ofItems (freezeJsonFields_frozen result)⟩
  | other => cases h

theorem freezeJsonItems_frozen {name : String} {items frozen : List PyValue}
    (h : freezeJsonItems name items = .ok frozen) : FrozenItems frozen := by
  cases items with
  | nil =>
    cases h
    trivial
  | cons item items =>
    rw [freezeJsonItems] at h
    cases first : freezeJson name item with
    | error error => simp [first] at h
    | ok value =>
      cases rest : freezeJsonItems name items with
      | error error => simp [first, rest, Except.map] at h
      | ok values =>
        rw [first, rest] at h
        cases h
        exact ⟨freezeJson_frozen first, freezeJsonItems_frozen rest⟩

theorem freezeJsonFields_frozen {name : String} {fields frozen : PyFields}
    (h : freezeJsonFields name fields = .ok frozen) : FrozenFields frozen := by
  cases fields with
  | nil =>
    cases h
    trivial
  | cons item fields =>
    obtain ⟨key, item⟩ := item
    cases key with
    | other => simp [freezeJsonFields] at h
    | str key =>
      rw [freezeJsonFields] at h
      cases first : freezeJson name item with
      | error error => simp [first] at h
      | ok value =>
        cases rest : freezeJsonFields name fields with
        | error error => simp [first, rest, Except.map] at h
        | ok values =>
          rw [first, rest] at h
          cases h
          exact ⟨⟨⟨key, rfl⟩, freezeJson_frozen first⟩, freezeJsonFields_frozen rest⟩

end

/-! ## Sessions -/

/-- The string value of a member of `RuntimeCpuId`. -/
def cpuValue : RuntimeCpuId → String
  | .cpu1 => "cpu1"
  | .cpu2 => "cpu2"

/-- The string value of a member of `EraseScope`. -/
def scopeValue : EraseScope → String
  | .requiredAppSectors => "required_app_sectors"
  | .entireApplicationRegion => "entire_application_region"
  | .custom => "custom"

structure TargetSessionSettings where
  cpuId : RuntimeCpuId
  programImagePath : String
  ramImagePath : String
  eraseScope : EraseScope
  sectorMask : Nat
  customSectorMask : Nat
  deriving DecidableEq, Repr

/-- `SessionDocument`; `schema_version` is `sessionSchemaVersion`. -/
structure SessionDocument where
  selectedTransport : String
  transportConfigs : PyFields
  targetSettings : RuntimeCpuId → TargetSessionSettings
  selected_nonempty : selectedTransport ≠ ""
  frozen : Frozen (.mapping transportConfigs)
  objects : ∀ item ∈ transportConfigs, item.1 ≠ .str "" ∧ ∃ fields, item.2 = .mapping fields
  selected_config : .str selectedTransport ∈ transportConfigs.map Prod.fst
  cpus : ∀ cpuId, (targetSettings cpuId).cpuId = cpuId

/-- The loop of the constructor over the transport configurations. -/
def freezeConfigs : PyFields → Except PyError PyFields
  | [] => .ok []
  | (.other _, _) :: _ => .error (.valueError "transport IDs must be non-empty strings")
  | (.str key, value) :: configs =>
    if key = "" then .error (.valueError "transport IDs must be non-empty strings")
    else match value with
      | .mapping fields =>
        match freezeJson ("transport_configs." ++ key) (.mapping fields) with
        | .error error => .error error
        | .ok frozen => (freezeConfigs configs).map ((.str key, frozen) :: ·)
      | _ => .error (.typeError ("transport_configs." ++ key ++ " must be an object"))

/-- A frozen mapping is a mapping. -/
theorem freezeJson_mapping {name : String} {fields : PyFields} {frozen : PyValue}
    (h : freezeJson name (.mapping fields) = .ok frozen) : ∃ items, frozen = .mapping items := by
  rw [freezeJson] at h
  cases result : freezeJsonFields name fields with
  | error error => simp [result, Except.map] at h
  | ok items =>
    rw [result] at h
    cases h
    exact ⟨_, rfl⟩

/-- What the loop takes from an item and what it makes of it. -/
theorem freezeConfigs_cons {key : PyKey} {value : PyValue} {configs frozen : PyFields}
    (h : freezeConfigs ((key, value) :: configs) = .ok frozen) :
    ∃ text item items, key = .str text ∧ text ≠ "" ∧ (∃ fields, value = .mapping fields) ∧
      freezeJson ("transport_configs." ++ text) value = .ok item ∧
      freezeConfigs configs = .ok items ∧ frozen = (.str text, item) :: items := by
  cases key with
  | other => simp [freezeConfigs] at h
  | str key =>
    by_cases empty : key = ""
    · cases value <;> simp [freezeConfigs, empty] at h
    · cases value with
      | mapping fields =>
        simp only [freezeConfigs, empty, ite_false] at h
        cases first : freezeJson ("transport_configs." ++ key) (.mapping fields) with
        | error error => simp [first] at h
        | ok item =>
          cases rest : freezeConfigs configs with
          | error error => simp [first, rest, Except.map] at h
          | ok items =>
            simp only [first, rest, Except.map, Except.ok.injEq] at h
            exact ⟨key, item, items, rfl, empty, ⟨fields, rfl⟩, first, rfl, h.symm⟩
      | _ => simp [freezeConfigs, empty] at h

theorem freezeConfigs_frozen {configs frozen : PyFields}
    (h : freezeConfigs configs = .ok frozen) : FrozenFields frozen ∧
      ∀ item ∈ frozen, item.1 ≠ .str "" ∧ ∃ fields, item.2 = .mapping fields := by
  induction configs generalizing frozen with
  | nil =>
    cases h
    exact ⟨trivial, by simp⟩
  | cons item configs ih =>
    obtain ⟨key, value⟩ := item
    obtain ⟨text, item, items, rfl, nonempty, ⟨fields, rfl⟩, first, rest, rfl⟩ :=
      freezeConfigs_cons h
    obtain ⟨frozen, objects⟩ := ih rest
    constructor
    · exact ⟨⟨⟨text, rfl⟩, freezeJson_frozen first⟩, frozen⟩
    · rw [List.forall_mem_cons]
      exact ⟨⟨by simpa using nonempty, freezeJson_mapping first⟩, objects⟩

/-- `SessionDocument(...)`. A missing CPU has no target settings. -/
def SessionDocument.make (selectedTransport : String) (transportConfigs : PyValue)
    (targetSettings : RuntimeCpuId → Option TargetSessionSettings) :
    Except PyError SessionDocument :=
  if nonempty : selectedTransport = "" then
    .error (.valueError "selected_transport must be a non-empty string")
  else match transportConfigs with
    | .mapping fields =>
      match result : freezeConfigs fields with
      | .error error => .error error
      | .ok items =>
        if selected : .str selectedTransport ∈ (PyDict.ofItems items).map Prod.fst then
          match targetSettings .cpu1, targetSettings .cpu2 with
          | some cpu1, some cpu2 =>
            if cpus : cpu1.cpuId = .cpu1 ∧ cpu2.cpuId = .cpu2 then
              .ok
                { selectedTransport
                  transportConfigs := PyDict.ofItems items
                  targetSettings := fun
                    | .cpu1 => cpu1
                    | .cpu2 => cpu2
                  selected_nonempty := nonempty
                  frozen := ⟨PyDict.ofItems_nodup _,
                    frozenFields_ofItems (freezeConfigs_frozen result).1⟩
                  objects := fun item mem =>
                    (freezeConfigs_frozen result).2 item (PyDict.mem_ofItems mem)
                  selected_config := selected
                  cpus := fun
                    | .cpu1 => cpus.1
                    | .cpu2 => cpus.2 }
            else .error (.valueError "target settings CPU does not match its key")
          | _, _ => .error (.valueError "target_settings must contain exactly CPU1 and CPU2")
        else .error (.valueError "selected_transport must exist in transport_configs")
    | _ => .error (.typeError "transport_configs must be a mapping")

/-- `==` on session documents. -/
structure SessionDocument.Same (a b : SessionDocument) : Prop where
  selected : a.selectedTransport = b.selectedTransport
  configs : PyValue.Same (.mapping a.transportConfigs) (.mapping b.transportConfigs)
  targets : a.targetSettings = b.targetSettings

/-! ## Global settings -/

structure GlobalCommandSettings where
  timeoutMs : Nat
  maxRetries : Nat
  retryBackoffMs : Nat
  positive : 0 < timeoutMs

def GlobalCommandSettings.default : GlobalCommandSettings := ⟨5000, 0, 0, Nat.zero_lt_succ _⟩

/-- `GlobalSettingsDocument`; `schema_version` is `globalSettingsSchemaVersion`. -/
structure GlobalSettingsDocument where
  hex2000ExecutablePath : String
  command : GlobalCommandSettings
  logOutputPath : String
  autoPingEnabled : Bool
  executable_stripped : PyText.strip hex2000ExecutablePath = hex2000ExecutablePath
  log_stripped : PyText.strip logOutputPath = logOutputPath

namespace GlobalSettingsDocument

def make (hex2000ExecutablePath : String) (command : GlobalCommandSettings)
    (logOutputPath : String) (autoPingEnabled : Bool) : GlobalSettingsDocument where
  hex2000ExecutablePath := PyText.strip hex2000ExecutablePath
  command := command
  logOutputPath := PyText.strip logOutputPath
  autoPingEnabled := autoPingEnabled
  executable_stripped := PyText.strip_strip _
  log_stripped := PyText.strip_strip _

/-- A document with the defaults for what only later versions hold. -/
def ofExecutable (hex2000ExecutablePath : String) : GlobalSettingsDocument :=
  make hex2000ExecutablePath .default "" true

theorem make_self (document : GlobalSettingsDocument) :
    make document.hex2000ExecutablePath document.command document.logOutputPath
      document.autoPingEnabled = document := by
  obtain ⟨executable, command, log, ping, executable_stripped, log_stripped⟩ := document
  simp [make, executable_stripped, log_stripped]

end GlobalSettingsDocument

/-! ## The runtime cache -/

/-- A `datetime`: its clock in microseconds, and its offset from UTC when it is
aware of one. -/
structure Datetime where
  clock : Int
  utcoffset : Option Int
  deriving DecidableEq, Repr

/-- What aware times are compared by. -/
def Datetime.instant (time : Datetime) : Int :=
  time.clock - time.utcoffset.getD 0

/-- The file system: `str(Path(path).expanduser().resolve(strict=False))` and
`os.path.normcase`. -/
structure PathLibrary where
  resolve : String → Except PyError String
  normcase : String → String

/-- A resolved path resolves to itself. -/
def PathLibrary.Stable (paths : PathLibrary) : Prop :=
  ∀ path resolved, paths.resolve path = .ok resolved → paths.resolve resolved = .ok resolved

def normalizePath (paths : PathLibrary) (path : String) : Except PyError String :=
  paths.resolve path

structure RecentSessionEntry (paths : PathLibrary) where
  path : String
  lastSavedAtUtc : Datetime
  normalized : ∃ given, normalizePath paths given = .ok path
  utc : lastSavedAtUtc.utcoffset = some 0

variable {paths : PathLibrary}

def RecentSessionEntry.make (paths : PathLibrary) (path : String) (lastSavedAtUtc : Datetime) :
    Except PyError (RecentSessionEntry paths) :=
  match normalized : normalizePath paths path with
  | .error error => .error error
  | .ok resolved =>
    if utc : lastSavedAtUtc.utcoffset = some 0 then
      .ok ⟨resolved, lastSavedAtUtc, ⟨path, normalized⟩, utc⟩
    else .error (.valueError "last_saved_at_utc must be timezone-aware UTC")

/-- An entry is made again from what it holds. -/
theorem RecentSessionEntry.make_self (stable : paths.Stable) (entry : RecentSessionEntry paths) :
    RecentSessionEntry.make paths entry.path entry.lastSavedAtUtc = .ok entry := by
  obtain ⟨given, resolved⟩ := entry.normalized
  have again : normalizePath paths entry.path = .ok entry.path := stable given _ resolved
  unfold RecentSessionEntry.make
  split
  next error failed =>
    rw [again] at failed
    cases failed
  next path found =>
    rw [again] at found
    cases found
    simp [entry.utc]

/-- The file that an entry is about. -/
def RecentSessionEntry.key (entry : RecentSessionEntry paths) : String :=
  paths.normcase entry.path

/-- An entry takes the place of an older one of its file. -/
def keepLatest (latest : List (String × RecentSessionEntry paths))
    (entry : RecentSessionEntry paths) : List (String × RecentSessionEntry paths) :=
  match latest.lookup entry.key with
  | none => PyDict.assign entry.key entry latest
  | some held =>
    if held.lastSavedAtUtc.instant < entry.lastSavedAtUtc.instant then
      PyDict.assign entry.key entry latest
    else latest

def newestFirst (a b : RecentSessionEntry paths) : Bool :=
  decide (b.lastSavedAtUtc.instant ≤ a.lastSavedAtUtc.instant)

def recentEntries (entries : List (RecentSessionEntry paths)) : List (RecentSessionEntry paths) :=
  let latest := entries.foldl keepLatest []
  ((latest.map Prod.snd).mergeSort newestFirst).take maxRecentSessions

/-- Every entry of the dict is kept under the key of its file. -/
def Keyed (latest : List (String × RecentSessionEntry paths)) : Prop :=
  (latest.map Prod.fst).Nodup ∧ ∀ item ∈ latest, item.1 = item.2.key

theorem keyed_assign {latest : List (String × RecentSessionEntry paths)} (keyed : Keyed latest)
    (entry : RecentSessionEntry paths) : Keyed (PyDict.assign entry.key entry latest) := by
  constructor
  · exact PyDict.nodup_assign keyed.1
  · intro item mem
    rcases PyDict.mem_assign mem with rfl | held
    · rfl
    · exact keyed.2 item held

theorem keyed_keepLatest {latest : List (String × RecentSessionEntry paths)}
    (keyed : Keyed latest) (entry : RecentSessionEntry paths) : Keyed (keepLatest latest entry) := by
  unfold keepLatest
  split
  · exact keyed_assign keyed entry
  · split
    · exact keyed_assign keyed entry
    · exact keyed

theorem keyed_latest (entries : List (RecentSessionEntry paths)) :
    Keyed (entries.foldl keepLatest []) := by
  induction entries using List.reverseRecOn with
  | nil => exact ⟨by simp, by simp⟩
  | append_singleton entries entry ih =>
    rw [List.foldl_append]
    exact keyed_keepLatest ih entry

/-- Entries about files of their own. -/
def Apart (entries : List (RecentSessionEntry paths)) : Prop :=
  entries.Pairwise fun a b => a.key ≠ b.key

theorem Keyed.apart {latest : List (String × RecentSessionEntry paths)} (keyed : Keyed latest) :
    Apart (latest.map Prod.snd) := by
  have keys : latest.map Prod.fst = (latest.map Prod.snd).map RecentSessionEntry.key := by
    rw [List.map_map]
    exact List.map_congr_left keyed.2
  have nodup := keyed.1
  rw [keys, List.Nodup, List.pairwise_map] at nodup
  exact nodup

theorem recentEntries_apart (entries : List (RecentSessionEntry paths)) :
    Apart (recentEntries entries) := by
  have sorted : Apart (((entries.foldl keepLatest []).map Prod.snd).mergeSort newestFirst) :=
    (List.Perm.pairwise_iff (fun ne => ne.symm) (List.mergeSort_perm _ _)).2
      (keyed_latest entries).apart
  exact sorted.sublist (List.take_sublist _ _)

theorem recentEntries_newest (entries : List (RecentSessionEntry paths)) :
    (recentEntries entries).Pairwise fun a b => newestFirst a b = true := by
  have sorted := @List.pairwise_mergeSort _ newestFirst
    (by simp only [newestFirst, decide_eq_true_eq]; intros; omega)
    (by simp only [newestFirst, Bool.or_eq_true, decide_eq_true_eq]; intros; omega)
    ((entries.foldl keepLatest []).map Prod.snd)
  exact sorted.sublist (List.take_sublist _ _)

/-- `RuntimeCacheDocument`; `schema_version` is `runtimeCacheSchemaVersion`. -/
structure RuntimeCacheDocument (paths : PathLibrary) where
  recentSessions : List (RecentSessionEntry paths)
  apart : Apart recentSessions
  newest : recentSessions.Pairwise fun a b => newestFirst a b = true
  bounded : recentSessions.length ≤ maxRecentSessions

def RuntimeCacheDocument.make (entries : List (RecentSessionEntry paths)) :
    RuntimeCacheDocument paths where
  recentSessions := recentEntries entries
  apart := recentEntries_apart entries
  newest := recentEntries_newest entries
  bounded := List.length_take_le _ _

/-- Entries about files of their own are all kept, in their order. -/
theorem latest_apart {entries : List (RecentSessionEntry paths)} (apart : Apart entries) :
    entries.foldl keepLatest [] = entries.map fun entry => (entry.key, entry) := by
  induction entries using List.reverseRecOn with
  | nil => rfl
  | append_singleton entries entry ih =>
    obtain ⟨before, _, cross⟩ := List.pairwise_append.1 apart
    have new : entry.key ∉ (entries.map fun entry => (entry.key, entry)).map Prod.fst := by
      rw [List.map_map, List.mem_map]
      rintro ⟨other, mem, equal⟩
      exact cross other mem entry (by simp) equal
    rw [List.foldl_append, ih before, List.foldl_cons, List.foldl_nil, keepLatest,
      PyDict.lookup_eq_none.2 new]
    simp [PyDict.assign_new new]

theorem RuntimeCacheDocument.make_self (document : RuntimeCacheDocument paths) :
    make document.recentSessions = document := by
  obtain ⟨entries, apart, newest, bounded⟩ := document
  have values : (entries.map fun entry => (entry.key, entry)).map Prod.snd = entries := by
    simp [Function.comp_def]
  have fixed : recentEntries entries = entries := by
    simp only [recentEntries, latest_apart apart, values]
    rw [List.mergeSort_of_pairwise newest, List.take_of_length_le bounded]
  simp only [make, fixed]

end BootUpgrade.Persistence
