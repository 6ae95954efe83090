import BootUpgrade.Gui.PersistenceModels

/-!
# The JSON stores of the persistent documents

`persistence_stores`: the encoders, the strict parsers and the three stores.
The writer and the reader of JSON text and of ISO 8601 times are parameters, as
is what the operating system answers.
-/

namespace BootUpgrade.Persistence

inductive PersistenceError where
  | persistence (message : String)
  | fileNotFound (message : String)
  | format (message : String)
  | unsupportedSchemaVersion (message : String)
  | write (message : String)
  /-- An exception that the stores do not catch. -/
  | uncaught (error : PyError)
  deriving DecidableEq, Repr

/-- `json.dumps` and `json.loads` with the arguments of the stores. -/
structure JsonLibrary where
  dumps : PyValue → Except PyError String
  loads : String → Except PyError PyValue

/-- `datetime.isoformat` and `datetime.fromisoformat`. -/
structure IsoLibrary where
  isoformat : Datetime → String
  fromisoformat : String → Except PyError Datetime

/-! ## Encoding -/

mutual

/-- `_plain_json`. -/
def plainJson : PyValue → Except PyError PyValue
  | .none => .ok .none
  | .bool value => .ok (.bool value)
  | .int value => .ok (.int value)
  | .float value => .ok (.float value)
  | .str value => .ok (.str value)
  | .tuple items => (plainJsonItems items).map .list
  | .mapping fields =>
    (plainJsonFields fields).map fun plain => .mapping (PyDict.ofItems plain)
  | .list _ => .error (.typeError "unsupported JSON value: list")
  | .other typeName => .error (.typeError ("unsupported JSON value: " ++ typeName))

def plainJsonItems : List PyValue → Except PyError (List PyValue)
  | [] => .ok []
  | item :: items =>
    match plainJson item with
    | .error error => .error error
    | .ok plain => (plainJsonItems items).map (plain :: ·)

def plainJsonFields : PyFields → Except PyError PyFields
  | [] => .ok []
  | (key, item) :: fields =>
    match plainJson item with
    | .error error => .error error
    | .ok plain => (plainJsonFields fields).map ((key, plain) :: ·)

end

def targetData (settings : TargetSessionSettings) : PyFields :=
  [(.str "cpu_id", .str (cpuValue settings.cpuId)),
   (.str "custom_sector_mask", .int settings.customSectorMask),
   (.str "erase_scope", .str (scopeValue settings.eraseScope)),
   (.str "program_image_path", .str settings.programImagePath),
   (.str "ram_image_path", .str settings.ramImagePath),
   (.str "sector_mask", .int settings.sectorMask)]

/-- The target settings of both CPUs. -/
def targetsData (settings : RuntimeCpuId → TargetSessionSettings) : PyFields :=
  [RuntimeCpuId.cpu1, .cpu2].map fun cpuId =>
    (.str (cpuValue cpuId), .mapping (targetData (settings cpuId)))

/-- `_session_data`. -/
def sessionData (document : SessionDocument) : Except PyError PyFields :=
  (plainJson (.mapping document.transportConfigs)).map fun configs =>
    [(.str "schema_version", .int sessionSchemaVersion),
     (.str "selected_transport", .str document.selectedTransport),
     (.str "target_settings", .mapping (targetsData document.targetSettings)),
     (.str "transport_configs", configs)]

/-- `_global_data`. -/
def globalData (document : GlobalSettingsDocument) : PyFields :=
  [(.str "auto_ping_enabled", .bool document.autoPingEnabled),
   (.str "command", .mapping
     [(.str "max_retries", .int document.command.maxRetries),
      (.str "retry_backoff_ms", .int document.command.retryBackoffMs),
      (.str "timeout_ms", .int document.command.timeoutMs)]),
   (.str "hex2000_executable_path", .str document.hex2000ExecutablePath),
   (.str "log_output_path", .str document.logOutputPath),
   (.str "schema_version", .int globalSettingsSchemaVersion)]

/-- `value.astimezone(timezone.utc)` of an aware time. -/
def Datetime.toUtc (value : Datetime) : Datetime := ⟨value.instant, some 0⟩

variable {paths : PathLibrary}

/-- `_utc_text`. -/
def utcText (iso : IsoLibrary) (value : Datetime) : String :=
  PyText.replace (iso.isoformat value.toUtc) "+00:00" "Z"

def entryData (iso : IsoLibrary) (entry : RecentSessionEntry paths) : PyFields :=
  [(.str "last_saved_at_utc", .str (utcText iso entry.lastSavedAtUtc)),
   (.str "path", .str entry.path)]

/-- `_cache_data`. -/
def cacheData (iso : IsoLibrary) (document : RuntimeCacheDocument paths) : PyFields :=
  [(.str "recent_sessions",
     .list (document.recentSessions.map fun entry => .mapping (entryData iso entry))),
   (.str "schema_version", .int runtimeCacheSchemaVersion)]

/-! ## Files -/

/-- What reading a file brings. -/
inductive FileState where
  | missing
  | undecodable (reason : String)
  | unreadable (reason : String)
  | text (content : String)
  deriving DecidableEq, Repr

abbrev Files := String → FileState

/-- `_serialize`. -/
def serialize (json : JsonLibrary) (data : PyFields) : Except PyError String :=
  (json.dumps (.mapping data)).map (· ++ "\n")

/-- `_atomic_write`. `fault` is what the operating system raises before the new
file has taken the place of the old one. -/
def atomicWrite (json : JsonLibrary) (fault : Option String) (path : String)
    (encoded : Except PyError PyFields) (files : Files) : Except PersistenceError Unit × Files :=
  match encoded.bind (serialize json) with
  | .error error =>
    (.error (.write (path ++ ": cannot serialize document: " ++ error.message)), files)
  | .ok payload =>
    match fault with
    | some reason => (.error (.write (path ++ ": atomic write failed: " ++ reason)), files)
    | none => (.ok (), Function.update files path (.text payload))

/-- `_load_object`. Without an object there is no file, and it was optional. -/
def loadObject (json : JsonLibrary) (files : Files) (path : String) (optional : Bool) :
    Except PersistenceError (Option PyFields) :=
  match files path with
  | .missing =>
    if optional then .ok none else .error (.fileNotFound (path ++ ": file not found"))
  | .undecodable reason => .error (.format (path ++ ": file is not valid UTF-8: " ++ reason))
  | .unreadable reason => .error (.persistence (path ++ ": cannot read file: " ++ reason))
  | .text text =>
    match json.loads text with
    | .error (.valueError message) => .error (.format (path ++ ": malformed JSON: " ++ message))
    | .error error => .error (.uncaught error)
    | .ok (.mapping data) => .ok (some data)
    | .ok _ => .error (.format (path ++ ": JSON root must be an object"))

/-! ## Strict fields -/

def keyText : PyKey → String
  | .str text => text
  | .other typeName => typeName

/-- `sorted(names)[0]`, when there is one. -/
def firstName (names : List PyKey) : Option String :=
  ((names.map keyText).mergeSort fun a b => decide (a ≤ b)).head?

/-- `value[key]`. -/
def item (value : PyFields) (key : String) : Except PersistenceError PyValue :=
  match value.lookup (.str key) with
  | none => .error (.uncaught (.keyError key))
  | some held => .ok held

/-- `_exact_fields`. -/
def exactFields (path : String) (value : PyFields) (expected : List String) (title : String) :
    Except PersistenceError Unit :=
  let names := value.map Prod.fst
  let wanted := expected.map PyKey.str
  match firstName (wanted.filter (· ∉ names)), firstName (names.filter (· ∉ wanted)) with
  | some name, _ => .error (.format (path ++ ": " ++ title ++ " missing field " ++ name))
  | none, some name => .error (.format (path ++ ": " ++ title ++ " has unknown field " ++ name))
  | none, none => .ok ()

/-- `_object`. -/
def object (path : String) (value : PyValue) (title : String) : Except PersistenceError PyFields :=
  match value with
  | .mapping fields => .ok fields
  | _ => .error (.format (path ++ ": " ++ title ++ " must be an object"))

/-- `_string`. -/
def string (path : String) (value : PyValue) (field : String) : Except PersistenceError String :=
  match value with
  | .str text => .ok text
  | _ => .error (.format (path ++ ": " ++ field ++ " must be a string"))

/-- `_integer`. -/
def integer (path : String) (value : PyValue) (field : String) (positive : Bool) :
    Except PersistenceError {n : Nat // positive = true → 0 < n} :=
  let requirement := if positive then "positive" else "non-negative"
  match value with
  | .int n =>
    if admitted : 0 ≤ n ∧ (positive = true → 0 < n) then
      .ok ⟨n.toNat, fun positive => by have := admitted.2 positive; omega⟩
    else .error (.format (path ++ ": " ++ field ++ " must be a " ++ requirement ++ " integer"))
  | _ => .error (.format (path ++ ": " ++ field ++ " must be a " ++ requirement ++ " integer"))

/-- `_boolean`. -/
def boolean (path : String) (value : PyValue) (field : String) : Except PersistenceError Bool :=
  match value with
  | .bool b => .ok b
  | _ => .error (.format (path ++ ": " ++ field ++ " must be a boolean"))

/-- `_schema`. -/
def schema (path : String) (data : PyFields) (supported : Int) (legacy : List Int) :
    Except PersistenceError Int :=
  match data.lookup (.str "schema_version") with
  | some (.int value) =>
    if value ≠ supported ∧ value ∉ legacy then
      .error (.unsupportedSchemaVersion (path ++ ": unsupported schema_version " ++
        toString value ++ "; supported version is " ++ toString supported))
    else .ok value
  | _ => .error (.format (path ++ ": schema_version must be an integer"))

/-- `except (TypeError, ValueError)` around a constructor. -/
def formatError {α : Type} (context : String) : Except PyError α → Except PersistenceError α
  | .ok value => .ok value
  | .error (.typeError message) | .error (.valueError message) =>
    .error (.format (context ++ message))
  | .error error => .error (.uncaught error)

/-! ## Parsing -/

/-- `RuntimeCpuId(text)`. -/
def cpuOf (text : String) : Option RuntimeCpuId :=
  [RuntimeCpuId.cpu1, .cpu2].find? fun cpuId => cpuValue cpuId == text

/-- `EraseScope(text)`. -/
def scopeOf (text : String) : Option EraseScope :=
  [EraseScope.requiredAppSectors, .entireApplicationRegion, .custom].find? fun scope =>
    scopeValue scope == text

/-- The target settings of one CPU in `_parse_session`. -/
def parseTarget (path : String) (targets : PyFields) (cpuId : RuntimeCpuId) :
    Except PersistenceError TargetSessionSettings := do
  let title := "target_settings." ++ cpuValue cpuId
  let settings ← object path (← item targets (cpuValue cpuId)) title
  exactFields path settings ["cpu_id", "program_image_path", "ram_image_path", "erase_scope",
    "sector_mask", "custom_sector_mask"] title
  let cpuText ← string path (← item settings "cpu_id") (title ++ ".cpu_id")
  let scopeText ← string path (← item settings "erase_scope") (title ++ ".erase_scope")
  match cpuOf cpuText, scopeOf scopeText with
  | some cpuId, some eraseScope =>
    let programImagePath ←
      string path (← item settings "program_image_path") (title ++ ".program_image_path")
    let ramImagePath ← string path (← item settings "ram_image_path") (title ++ ".ram_image_path")
    let sectorMask ← integer path (← item settings "sector_mask") (title ++ ".sector_mask") false
    let customSectorMask ←
      integer path (← item settings "custom_sector_mask") (title ++ ".custom_sector_mask") false
    .ok ⟨cpuId, programImagePath, ramImagePath, eraseScope, sectorMask.1, customSectorMask.1⟩
  | _, _ => .error (.format (path ++ ": invalid CPU or erase scope in " ++ title))

/-- `parsed_targets`. -/
def parsedTargets (cpu1 cpu2 : TargetSessionSettings) : RuntimeCpuId → TargetSessionSettings
  | .cpu1 => cpu1
  | .cpu2 => cpu2

/-- `_parse_session`. -/
def parseSession (path : String) (data : PyFields) : Except PersistenceError SessionDocument := do
  let _ ← schema path data sessionSchemaVersion []
  exactFields path data
    ["schema_version", "selected_transport", "transport_configs", "target_settings"] "Session"
  let selected ← string path (← item data "selected_transport") "selected_transport"
  let configs ← object path (← item data "transport_configs") "transport_configs"
  let targets ← object path (← item data "target_settings") "target_settings"
  let names := targets.map Prod.fst
  let cpus := [RuntimeCpuId.cpu1, .cpu2].map fun cpuId => PyKey.str (cpuValue cpuId)
  if names ⊆ cpus ∧ cpus ⊆ names then
    let cpu1 ← parseTarget path targets .cpu1
    let cpu2 ← parseTarget path targets .cpu2
    formatError (path ++ ": invalid Session document: ")
      (SessionDocument.make selected (.mapping configs) fun cpuId =>
        some (parsedTargets cpu1 cpu2 cpuId))
  else .error (.format (path ++ ": target_settings must contain exactly cpu1 and cpu2"))

/-- What `_parse_global_v2` and `_parse_global_v3` share: the fields that the
version has, and what it says of the automatic ping. -/
def parseGlobal (path : String) (data : PyFields) (expected : List String)
    (autoPing : Except PersistenceError Bool) : Except PersistenceError GlobalSettingsDocument := do
  exactFields path data expected "Global Settings"
  let command ← object path (← item data "command") "command"
  exactFields path command ["timeout_ms", "max_retries", "retry_backoff_ms"] "command"
  let executable ←
    string path (← item data "hex2000_executable_path") "hex2000_executable_path"
  let timeout ← integer path (← item command "timeout_ms") "command.timeout_ms" true
  let retries ← integer path (← item command "max_retries") "command.max_retries" false
  let backoff ← integer path (← item command "retry_backoff_ms") "command.retry_backoff_ms" false
  let log ← string path (← item data "log_output_path") "log_output_path"
  let autoPingEnabled ← autoPing
  .ok (.make executable ⟨timeout.1, retries.1, backoff.1, timeout.2 rfl⟩ log autoPingEnabled)

/-- `_parse_global_v2`. -/
def parseGlobalV2 (path : String) (data : PyFields) :
    Except PersistenceError GlobalSettingsDocument :=
  parseGlobal path data
    ["schema_version", "hex2000_executable_path", "command", "log_output_path"] (.ok true)

/-- `_parse_global_v3`. -/
def parseGlobalV3 (path : String) (data : PyFields) :
    Except PersistenceError GlobalSettingsDocument :=
  parseGlobal path data
    ["schema_version", "hex2000_executable_path", "command", "log_output_path",
      "auto_ping_enabled"]
    ((item data "auto_ping_enabled").bind fun value => boolean path value "auto_ping_enabled")

structure DocumentLoadResult (Document : Type) where
  document : Document
  sourceSchemaVersion : Option Int
  migrated : Bool := false
  notices : List String := []

def legacyNotices : List (String × String) :=
  [("flash_lib", "flash_lib belongs to application resources and is not persisted in Global Settings v2"),
   ("temporary_files", "temporary_files is not persisted in Global Settings v2"),
   ("connection_timeouts",
    "connection_timeouts is transport-specific and is not persisted in Global Settings v2")]

/-- The type of a legacy field. -/
inductive FieldType where
  | str
  | bool
  | int
  deriving DecidableEq, Repr

def FieldType.admits : FieldType → PyValue → Bool
  | .str, .str _ => true
  | .bool, .bool _ => true
  | .int, .int _ => true
  | _, _ => false

def legacyShapes : List (String × List (String × FieldType)) :=
  [("flash_lib",
    [("service_image_path", .str), ("service_map_path", .str), ("header_symbol", .str)]),
   ("temporary_files", [("sci8_temp_dir", .str), ("keep_generated_sci8_txt", .bool)]),
   ("connection_timeouts",
    [("tx_timeout_ms", .int), ("rx_timeout_ms", .int), ("autobaud_timeout_ms", .int)])]

/-- One round of the loop over the legacy sections. -/
def checkLegacy (path : String) (data : PyFields) (name : String)
    (shape : List (String × FieldType)) : Except PersistenceError Unit :=
  match data.lookup (.str name) with
  | none => .ok ()
  | some value => do
    let fields ← object path value name
    let names := shape.map fun field => PyKey.str field.1
    match firstName ((fields.map Prod.fst).filter (· ∉ names)) with
    | some unknown => .error (.format (path ++ ": " ++ name ++ " has unknown field " ++ unknown))
    | none =>
      shape.forM fun field =>
        match fields.lookup (.str field.1) with
        | none => .ok ()
        | some held =>
          if field.2.admits held then .ok ()
          else .error (.format (path ++ ": " ++ name ++ "." ++ field.1 ++ " has an invalid type"))

/-- `_parse_global_v1`. -/
def parseGlobalV1 (path : String) (data : PyFields) :
    Except PersistenceError (DocumentLoadResult GlobalSettingsDocument) := do
  let allowed := (["schema_version", "hex2000"] ++ legacyNotices.map Prod.fst).map PyKey.str
  match firstName ((data.map Prod.fst).filter (· ∉ allowed)) with
  | some unknown =>
    .error (.format (path ++ ": legacy Global Settings has unknown field " ++ unknown))
  | none =>
    match data.lookup (.str "hex2000") with
    | none => .error (.format (path ++ ": legacy Global Settings missing field hex2000"))
    | some value =>
      let hex2000 ← object path value "hex2000"
      exactFields path hex2000 ["executable_path"] "hex2000"
      let executable ← string path (← item hex2000 "executable_path") "hex2000.executable_path"
      legacyShapes.forM fun shape => checkLegacy path data shape.1 shape.2
      let notices :=
        (legacyNotices.filter fun notice => PyKey.str notice.1 ∈ data.map Prod.fst).map Prod.snd
      .ok ⟨.ofExecutable executable, some 1, true, notices⟩

/-- One round of the loop of `_parse_cache`. -/
def parseEntry (iso : IsoLibrary) (paths : PathLibrary) (path : String) (index : Nat)
    (value : PyValue) : Except PersistenceError (RecentSessionEntry paths) := do
  let title := "recent_sessions[" ++ toString index ++ "]"
  let fields ← object path value title
  exactFields path fields ["path", "last_saved_at_utc"] title
  let pathText ← string path (← item fields "path") (title ++ ".path")
  let timestamp ← string path (← item fields "last_saved_at_utc") (title ++ ".last_saved_at_utc")
  formatError (path ++ ": invalid " ++ title ++ ": ") <| do
    let parsed ← iso.fromisoformat
      (if PyText.endsWith timestamp 'Z' then PyText.withoutLast timestamp ++ "+00:00"
        else timestamp)
    RecentSessionEntry.make paths pathText parsed

def parseEntries (iso : IsoLibrary) (paths : PathLibrary) (path : String) :
    Nat → List PyValue → Except PersistenceError (List (RecentSessionEntry paths))
  | _, [] => .ok []
  | index, value :: values => do
    let entry ← parseEntry iso paths path index value
    let entries ← parseEntries iso paths path (index + 1) values
    .ok (entry :: entries)

/-- `_parse_cache`. -/
def parseCache (iso : IsoLibrary) (paths : PathLibrary) (path : String) (data : PyFields) :
    Except PersistenceError (RuntimeCacheDocument paths) := do
  let _ ← schema path data runtimeCacheSchemaVersion []
  exactFields path data ["schema_version", "recent_sessions"] "Runtime Cache"
  match ← item data "recent_sessions" with
  | .list values =>
    let entries ← parseEntries iso paths path 0 values
    .ok (.make entries)
  | _ => .error (.format (path ++ ": recent_sessions must be an array"))

/-! ## The stores -/

namespace SessionStore

def load (json : JsonLibrary) (files : Files) (path : String) :
    Except PersistenceError (DocumentLoadResult SessionDocument) := do
  -- without `optional` a missing file is an error
  match ← loadObject json files path false with
  | none => .error (.uncaught (.other "AssertionError"))
  | some data =>
    let document ← parseSession path data
    .ok ⟨document, some sessionSchemaVersion, false, []⟩

def save (json : JsonLibrary) (fault : Option String) (path : String)
    (document : SessionDocument) (files : Files) : Except PersistenceError Unit × Files :=
  atomicWrite json fault path (sessionData document) files

end SessionStore

namespace GlobalSettingsStore

def load (json : JsonLibrary) (files : Files) (path : String) :
    Except PersistenceError (DocumentLoadResult GlobalSettingsDocument) := do
  match ← loadObject json files path true with
  | none => .ok ⟨.ofExecutable "", none, false, []⟩
  | some data =>
    let version ← schema path data globalSettingsSchemaVersion [1, 2]
    if version = 1 then parseGlobalV1 path data
    else if version = 2 then
      let document ← parseGlobalV2 path data
      .ok ⟨document, some version, true, []⟩
    else
      let document ← parseGlobalV3 path data
      .ok ⟨document, some version, false, []⟩

def save (json : JsonLibrary) (fault : Option String) (path : String)
    (document : GlobalSettingsDocument) (files : Files) : Except PersistenceError Unit × Files :=
  atomicWrite json fault path (.ok (globalData document)) files

end GlobalSettingsStore

namespace RuntimeCacheStore

def load (json : JsonLibrary) (iso : IsoLibrary) (paths : PathLibrary) (files : Files)
    (path : String) : Except PersistenceError (DocumentLoadResult (RuntimeCacheDocument paths)) := do
  match ← loadObject json files path true with
  | none => .ok ⟨.make [], none, false, []⟩
  | some data =>
    let document ← parseCache iso paths path data
    .ok ⟨document, some runtimeCacheSchemaVersion, false, []⟩

def save (json : JsonLibrary) (iso : IsoLibrary) (fault : Option String) (path : String)
    (document : RuntimeCacheDocument paths) (files : Files) : Except PersistenceError Unit × Files :=
  atomicWrite json fault path (.ok (cacheData iso document)) files

end RuntimeCacheStore

end BootUpgrade.Persistence
