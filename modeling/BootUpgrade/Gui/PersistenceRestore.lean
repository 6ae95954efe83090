import BootUpgrade.Gui.PersistenceRoundTrip

/-!
# Saving and loading the documents

The three stores over a file system: a saved document loads again, and a save
touches no other file.
-/

namespace BootUpgrade.Persistence

open PyValue (Distinct DistinctItems DistinctFields)

variable {paths : PathLibrary} {iso : IsoLibrary}

/-- The text of the data is read back as an object with its fields. -/
def JsonLibrary.Reproduces (json : JsonLibrary) (data : PyFields) : Prop :=
  ∃ text loaded, json.dumps (.mapping data) = .ok text ∧
    json.loads (text ++ "\n") = .ok (.mapping loaded) ∧ Loaded data loaded

variable {json : JsonLibrary} {files saved : Files} {path : String}

/-- A save that fails leaves every file as it was, and one that succeeds changes
no other file. -/
theorem atomicWrite_files {fault : Option String} {encoded : Except PyError PyFields}
    {result : Except PersistenceError Unit}
    (h : atomicWrite json fault path encoded files = (result, saved)) :
    (result ≠ .ok () → saved = files) ∧ ∀ other ≠ path, saved other = files other := by
  unfold atomicWrite at h
  split at h
  · cases h
    simp
  · split at h
    · cases h
      simp
    · cases h
      exact ⟨fun failed => absurd rfl failed, fun other ne => Function.update_of_ne ne _ _⟩

theorem atomicWrite_reproduced (path : String) (files : Files) {data : PyFields}
    (reproduced : json.Reproduces data) :
    ∃ saved loaded, atomicWrite json none path (.ok data) files = (.ok (), saved) ∧
      (∀ optional, loadObject json saved path optional = .ok (some loaded)) ∧
      Loaded data loaded := by
  obtain ⟨text, loaded, written, read, brought⟩ := reproduced
  refine ⟨Function.update files path (.text (text ++ "\n")), loaded, ?_, fun optional => ?_, brought⟩
  · simp [atomicWrite, Except.bind, serialize, written, Except.map]
  · simp [loadObject, read]

theorem sessionData_ok (document : SessionDocument) : ∃ data, sessionData document = .ok data := by
  obtain ⟨plain, encoded, _⟩ := refreeze document.frozen
  exact ⟨_, by rw [sessionData, encoded]; rfl⟩

theorem session_restored (path : String) (files : Files) {document : SessionDocument}
    (reproduced : ∀ data, sessionData document = .ok data → json.Reproduces data) :
    ∃ saved restored, SessionStore.save json none path document files = (.ok (), saved) ∧
      SessionStore.load json saved path = .ok ⟨restored, some sessionSchemaVersion, false, []⟩ ∧
      document.Same restored := by
  obtain ⟨data, encoded⟩ := sessionData_ok document
  obtain ⟨saved, loaded, written, read, brought⟩ :=
    atomicWrite_reproduced path files (reproduced data encoded)
  obtain ⟨restored, parsed, same⟩ := parseSession_loaded path encoded brought
  refine ⟨saved, restored, ?_, ?_, same⟩
  · rw [SessionStore.save, encoded, written]
  · simp only [SessionStore.load, bind, Except.bind, read, parsed]

theorem settings_restored (path : String) (files : Files) {document : GlobalSettingsDocument}
    (reproduced : json.Reproduces (globalData document)) :
    ∃ saved, GlobalSettingsStore.save json none path document files = (.ok (), saved) ∧
      GlobalSettingsStore.load json saved path =
        .ok ⟨document, some globalSettingsSchemaVersion, false, []⟩ := by
  obtain ⟨saved, loaded, written, read, brought⟩ := atomicWrite_reproduced path files reproduced
  have version : schema path loaded globalSettingsSchemaVersion [1, 2] =
      .ok globalSettingsSchemaVersion := schema_loaded brought (by simp [globalData])
  refine ⟨saved, written, ?_⟩
  simp only [GlobalSettingsStore.load, bind, Except.bind, read, version,
    parseGlobalV3_loaded path brought]
  rfl

theorem cache_restored (stable : paths.Stable) (path : String) (files : Files)
    {document : RuntimeCacheDocument paths} (reproduced : json.Reproduces (cacheData iso document))
    (times : ∀ entry ∈ document.recentSessions, iso.Reproduces entry.lastSavedAtUtc) :
    ∃ saved, RuntimeCacheStore.save json iso none path document files = (.ok (), saved) ∧
      RuntimeCacheStore.load json iso paths saved path =
        .ok ⟨document, some runtimeCacheSchemaVersion, false, []⟩ := by
  obtain ⟨saved, loaded, written, read, brought⟩ := atomicWrite_reproduced path files reproduced
  refine ⟨saved, written, ?_⟩
  simp only [RuntimeCacheStore.load, bind, Except.bind, read,
    parseCache_loaded stable path times brought]

theorem bind_ok {ε α β : Type} {first : Except ε α} {next : α → Except ε β} {result : β}
    (h : (first >>= next) = .ok result) : ∃ value, first = .ok value ∧ next value = .ok result := by
  cases first with
  | error error => cases h
  | ok value => exact ⟨value, rfl, h⟩

theorem parseGlobalV1_migrated {data : PyFields} {old : DocumentLoadResult GlobalSettingsDocument}
    (parsed : parseGlobalV1 path data = .ok old) : old.migrated = true := by
  unfold parseGlobalV1 at parsed
  dsimp only at parsed
  split at parsed
  next => cases parsed
  next =>
    split at parsed
    next => cases parsed
    next =>
      obtain ⟨_, _, parsed⟩ := bind_ok parsed
      obtain ⟨_, _, parsed⟩ := bind_ok parsed
      obtain ⟨_, _, parsed⟩ := bind_ok parsed
      obtain ⟨_, _, parsed⟩ := bind_ok parsed
      obtain ⟨_, _, parsed⟩ := bind_ok parsed
      cases parsed
      rfl

/-- A file of an earlier version is migrated. -/
theorem legacy_migrated {old : DocumentLoadResult GlobalSettingsDocument}
    (loaded : GlobalSettingsStore.load json files path = .ok old)
    (legacy : old.sourceSchemaVersion = some 1 ∨ old.sourceSchemaVersion = some 2) :
    old.migrated = true := by
  obtain ⟨found, _, loaded⟩ := bind_ok loaded
  cases found with
  | none =>
    cases loaded
    simp at legacy
  | some data =>
    obtain ⟨version, _, loaded⟩ := bind_ok loaded
    by_cases first : version = 1
    · rw [if_pos first] at loaded
      exact parseGlobalV1_migrated loaded
    · rw [if_neg first] at loaded
      by_cases second : version = 2
      · rw [if_pos second] at loaded
        obtain ⟨document, _, loaded⟩ := bind_ok loaded
        cases loaded
        rfl
      · rw [if_neg second] at loaded
        obtain ⟨document, _, loaded⟩ := bind_ok loaded
        cases loaded
        simp [first, second] at legacy

/-- What a document of any of the three stores is saved as loads again as an
equal document, and settings of an earlier version load without migration once
they have been saved. -/
theorem persistence_round_trip (json : JsonLibrary) (iso : IsoLibrary) (paths : PathLibrary)
    (stable : paths.Stable) (path : String) (files : Files) :
    (∀ document : SessionDocument,
      (∀ data, sessionData document = .ok data → json.Reproduces data) →
      ∃ saved restored, SessionStore.save json none path document files = (.ok (), saved) ∧
        SessionStore.load json saved path =
          .ok ⟨restored, some sessionSchemaVersion, false, []⟩ ∧
        document.Same restored) ∧
    (∀ document : GlobalSettingsDocument, json.Reproduces (globalData document) →
      ∃ saved, GlobalSettingsStore.save json none path document files = (.ok (), saved) ∧
        GlobalSettingsStore.load json saved path =
          .ok ⟨document, some globalSettingsSchemaVersion, false, []⟩) ∧
    (∀ document : RuntimeCacheDocument paths, json.Reproduces (cacheData iso document) →
      (∀ entry ∈ document.recentSessions, iso.Reproduces entry.lastSavedAtUtc) →
      ∃ saved, RuntimeCacheStore.save json iso none path document files = (.ok (), saved) ∧
        RuntimeCacheStore.load json iso paths saved path =
          .ok ⟨document, some runtimeCacheSchemaVersion, false, []⟩) ∧
    (∀ old, GlobalSettingsStore.load json files path = .ok old →
      old.sourceSchemaVersion = some 1 ∨ old.sourceSchemaVersion = some 2 →
      json.Reproduces (globalData old.document) →
      old.migrated = true ∧ ∃ saved, GlobalSettingsStore.save json none path old.document files = (.ok (), saved) ∧
        GlobalSettingsStore.load json saved path =
          .ok ⟨old.document, some globalSettingsSchemaVersion, false, []⟩) := by
  refine ⟨?_, ?_, ?_, ?_⟩
  · intro document reproduced
    exact session_restored path files reproduced
  · intro document reproduced
    exact settings_restored path files reproduced
  · intro document reproduced times
    exact cache_restored stable path files reproduced times
  · intro old loaded legacy reproduced
    exact ⟨legacy_migrated loaded legacy, settings_restored path files reproduced⟩

/-! ### Documents of one workstation -/

/-- A library that has seen these texts: each stands with the first field of its
data, the text and what reading it brings. -/
def recordedJson (texts : List (String × String × PyFields)) : JsonLibrary where
  dumps
    | .mapping ((.str first, _) :: _) =>
      match texts.lookup first with
      | some (text, _) => .ok text
      | none => .error (.other "another document")
    | _ => .error (.other "another document")
  loads text :=
    match texts.find? fun entry => entry.2.1 ++ "\n" == text with
    | some (_, _, data) => .ok (.mapping data)
    | none => .error (.valueError "another text")

def epochIso : IsoLibrary where
  isoformat _ := "1970-01-01T00:00:00+00:00"
  fromisoformat text :=
    if text = "1970-01-01T00:00:00+00:00" then .ok ⟨0, some 0⟩
    else .error (.valueError ("Invalid isoformat string: " ++ text))

/-- Absolute paths without a link. -/
def plainPaths : PathLibrary where
  resolve := .ok
  normcase := id

def benchSession : SessionDocument where
  selectedTransport := "sci_rs232"
  transportConfigs :=
    [(.str "sci_rs232", .mapping [(.str "ports", .tuple [.str "COM3", .int 115200])])]
  targetSettings cpuId := ⟨cpuId, "", "", .requiredAppSectors, 0, 0⟩
  selected_nonempty := by simp
  frozen := by simp [Frozen, FrozenFields, FrozenItems]
  objects := by simp
  selected_config := by simp
  cpus _ := rfl

def benchSessionData : PyFields :=
  [(.str "schema_version", .int 1),
   (.str "selected_transport", .str "sci_rs232"),
   (.str "target_settings", .mapping (targetsData benchSession.targetSettings)),
   (.str "transport_configs", .mapping
     [(.str "sci_rs232", .mapping [(.str "ports", .list [.str "COM3", .int 115200])])])]

def benchSettings : GlobalSettingsDocument := .ofExecutable "C:/ti/hex2000.exe"

def benchCache : RuntimeCacheDocument plainPaths where
  recentSessions := [⟨"/home/user/bench.json", ⟨0, some 0⟩, ⟨_, rfl⟩, rfl⟩]
  apart := by simp [Apart]
  newest := by simp
  bounded := by simp [maxRecentSessions]

def oldSettingsData : PyFields :=
  [(.str "hex2000", .mapping [(.str "executable_path", .str "C:/ti/hex2000.exe")]),
   (.str "schema_version", .int 1)]

def benchSessionText : String :=
  "\x7b\n" ++
  "  \"schema_version\": 1,\n" ++
  "  \"selected_transport\": \"sci_rs232\",\n" ++
  "  \"target_settings\": \x7b\n" ++
  "    \"cpu1\": \x7b\n" ++
  "      \"cpu_id\": \"cpu1\",\n" ++
  "      \"custom_sector_mask\": 0,\n" ++
  "      \"erase_scope\": \"required_app_sectors\",\n" ++
  "      \"program_image_path\": \"\",\n" ++
  "      \"ram_image_path\": \"\",\n" ++
  "      \"sector_mask\": 0\n" ++
  "    \x7d,\n" ++
  "    \"cpu2\": \x7b\n" ++
  "      \"cpu_id\": \"cpu2\",\n" ++
  "      \"custom_sector_mask\": 0,\n" ++
  "      \"erase_scope\": \"required_app_sectors\",\n" ++
  "      \"program_image_path\": \"\",\n" ++
  "      \"ram_image_path\": \"\",\n" ++
  "      \"sector_mask\": 0\n" ++
  "    \x7d\n" ++
  "  \x7d,\n" ++
  "  \"transport_configs\": \x7b\n" ++
  "    \"sci_rs232\": \x7b\n" ++
  "      \"ports\": [\n" ++
  "        \"COM3\",\n" ++
  "        115200\n" ++
  "      ]\n" ++
  "    \x7d\n" ++
  "  \x7d\n" ++
  "\x7d"

def benchSettingsText : String :=
  "\x7b\n" ++
  "  \"auto_ping_enabled\": true,\n" ++
  "  \"command\": \x7b\n" ++
  "    \"max_retries\": 0,\n" ++
  "    \"retry_backoff_ms\": 0,\n" ++
  "    \"timeout_ms\": 5000\n" ++
  "  \x7d,\n" ++
  "  \"hex2000_executable_path\": \"C:/ti/hex2000.exe\",\n" ++
  "  \"log_output_path\": \"\",\n" ++
  "  \"schema_version\": 3\n" ++
  "\x7d"

def benchCacheText : String :=
  "\x7b\n" ++
  "  \"recent_sessions\": [\n" ++
  "    \x7b\n" ++
  "      \"last_saved_at_utc\": \"1970-01-01T00:00:00Z\",\n" ++
  "      \"path\": \"/home/user/bench.json\"\n" ++
  "    \x7d\n" ++
  "  ],\n" ++
  "  \"schema_version\": 1\n" ++
  "\x7d"

def oldSettingsText : String :=
  "\x7b\n" ++
  "  \"hex2000\": \x7b\n" ++
  "    \"executable_path\": \"C:/ti/hex2000.exe\"\n" ++
  "  \x7d,\n" ++
  "  \"schema_version\": 1\n" ++
  "\x7d"

def benchJson : JsonLibrary :=
  recordedJson
    [("schema_version", benchSessionText, benchSessionData),
     ("auto_ping_enabled", benchSettingsText, globalData benchSettings),
     ("recent_sessions", benchCacheText, cacheData epochIso benchCache),
     ("hex2000", oldSettingsText, oldSettingsData)]

/-- A file with the settings of version 1. -/
def oldFiles : Files := fun _ => .text (oldSettingsText ++ "\n")

theorem loaded_self {data : PyFields} (distinct : Distinct (.mapping data)) : Loaded data data :=
  ⟨rfl, PyValue.sameFields_iff.2 fun item mem =>
    ⟨item.2, PyDict.lookup_of_mem distinct.1 mem, PyValue.fields_refl distinct.2 item mem⟩,
    distinct⟩

theorem globalData_distinct (document : GlobalSettingsDocument) :
    Distinct (.mapping (globalData document)) := by
  simp [Distinct, DistinctFields, globalData]

theorem cacheData_distinct (iso : IsoLibrary) (document : RuntimeCacheDocument paths) :
    Distinct (.mapping (cacheData iso document)) := by
  simp [Distinct, DistinctFields, cacheData, PyValue.distinctItems_iff, entryData]

theorem benchSession_encoded : sessionData benchSession = .ok benchSessionData := by
  simp [sessionData, benchSession, benchSessionData, plainJson, plainJsonFields, plainJsonItems,
    Except.map, PyDict.ofItems, PyDict.assign, sessionSchemaVersion]

theorem texts_apart :
    (benchSessionText ++ "\n" == benchSettingsText ++ "\n") = false ∧
    (benchSessionText ++ "\n" == benchCacheText ++ "\n") = false ∧
    (benchSettingsText ++ "\n" == benchCacheText ++ "\n") = false ∧
    (benchSessionText ++ "\n" == oldSettingsText ++ "\n") = false ∧
    (benchSettingsText ++ "\n" == oldSettingsText ++ "\n") = false ∧
    (benchCacheText ++ "\n" == oldSettingsText ++ "\n") = false := by
  decide +kernel

theorem benchJson_loads :
    benchJson.loads (benchSessionText ++ "\n") = .ok (.mapping benchSessionData) ∧
    benchJson.loads (benchSettingsText ++ "\n") = .ok (.mapping (globalData benchSettings)) ∧
    benchJson.loads (benchCacheText ++ "\n") = .ok (.mapping (cacheData epochIso benchCache)) ∧
    benchJson.loads (oldSettingsText ++ "\n") = .ok (.mapping oldSettingsData) := by
  obtain ⟨a, b, c, d, e, f⟩ := texts_apart
  simp only [benchJson, recordedJson, List.find?, a, b, c, d, e, f, BEq.rfl, and_self]

theorem benchSession_reproduced : benchJson.Reproduces benchSessionData := by
  refine ⟨benchSessionText, _, rfl, benchJson_loads.1, loaded_self ?_⟩
  simp [Distinct, DistinctFields, DistinctItems, benchSessionData, targetsData, targetData,
    cpuValue]

theorem benchSettings_reproduced : benchJson.Reproduces (globalData benchSettings) :=
  ⟨benchSettingsText, _, rfl, benchJson_loads.2.1, loaded_self (globalData_distinct _)⟩

theorem benchCache_reproduced : benchJson.Reproduces (cacheData epochIso benchCache) :=
  ⟨benchCacheText, _, rfl, benchJson_loads.2.2.1, loaded_self (cacheData_distinct _ _)⟩

theorem epochIso_reproduced : epochIso.Reproduces ⟨0, some 0⟩ :=
  ⟨"1970-01-01T00:00:00", rfl, by decide, rfl⟩

theorem oldSettings_parsed : parseGlobalV1 "settings.json" oldSettingsData =
    .ok ⟨benchSettings, some 1, true, []⟩ := by
  have hex2000 : oldSettingsData.lookup (.str "hex2000") =
      some (.mapping [(.str "executable_path", .str "C:/ti/hex2000.exe")]) := rfl
  have fields : exactFields "settings.json"
      [(.str "executable_path", .str "C:/ti/hex2000.exe")] ["executable_path"] "hex2000" = .ok () :=
    exactFields_loaded (loaded_self (by simp [Distinct, DistinctFields])) ["executable_path"] rfl
      (by decide) (by decide)
  have known : (oldSettingsData.map Prod.fst).filter (· ∉ (["schema_version", "hex2000"] ++
      legacyNotices.map Prod.fst).map PyKey.str) = [] := by decide
  have none : firstName [] = .none := by simp [firstName]
  simp only [parseGlobalV1, known, none, hex2000, object, fields, bind, Except.bind]
  rfl

theorem oldFiles_load : GlobalSettingsStore.load benchJson oldFiles "settings.json" =
    .ok ⟨benchSettings, some 1, true, []⟩ := by
  have read : loadObject benchJson oldFiles "settings.json" true = .ok (some oldSettingsData) := by
    simp [loadObject, oldFiles, benchJson_loads]
  have version : schema "settings.json" oldSettingsData globalSettingsSchemaVersion [1, 2] = .ok 1 :=
    rfl
  simp only [GlobalSettingsStore.load, bind, Except.bind, read, version, ite_true,
    oldSettings_parsed]

theorem persistence_round_trip_bench :
    (∃ saved restored,
      SessionStore.save benchJson none "settings.json" benchSession oldFiles = (.ok (), saved) ∧
      SessionStore.load benchJson saved "settings.json" = .ok ⟨restored, some 1, false, []⟩ ∧
      benchSession.Same restored) ∧
    (∃ saved, GlobalSettingsStore.save benchJson none "settings.json" benchSettings oldFiles =
        (.ok (), saved) ∧
      GlobalSettingsStore.load benchJson saved "settings.json" =
        .ok ⟨benchSettings, some 3, false, []⟩) ∧
    (∃ saved, RuntimeCacheStore.save benchJson epochIso none "settings.json" benchCache oldFiles =
        (.ok (), saved) ∧
      RuntimeCacheStore.load benchJson epochIso plainPaths saved "settings.json" =
        .ok ⟨benchCache, some 1, false, []⟩) ∧
    (GlobalSettingsStore.load benchJson oldFiles "settings.json" =
        .ok ⟨benchSettings, some 1, true, []⟩ ∧
      ∃ saved, GlobalSettingsStore.save benchJson none "settings.json" benchSettings oldFiles =
          (.ok (), saved) ∧
        GlobalSettingsStore.load benchJson saved "settings.json" =
          .ok ⟨benchSettings, some 3, false, []⟩) := by
  obtain ⟨session, settings, cache, legacy⟩ := persistence_round_trip benchJson epochIso plainPaths
    (fun _ _ _ => rfl) "settings.json" oldFiles
  refine ⟨?_, ?_, ?_, oldFiles_load, ?_⟩
  · apply session
    intro data encoded
    rw [benchSession_encoded] at encoded
    cases encoded
    exact benchSession_reproduced
  · exact settings _ benchSettings_reproduced
  · apply cache _ benchCache_reproduced
    intro entry mem
    obtain rfl := List.mem_singleton.1 mem
    exact epochIso_reproduced
  · exact (legacy _ oldFiles_load (Or.inl rfl) benchSettings_reproduced).2

end BootUpgrade.Persistence
