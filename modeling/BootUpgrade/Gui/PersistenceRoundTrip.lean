import BootUpgrade.Gui.PersistenceStores

/-!
# What is saved is what is loaded

A document comes back from its encoded data, whatever the order in which a
reader lists the fields of an object.
-/

namespace BootUpgrade.Persistence

open PyValue (Same SameItems SameFields Distinct DistinctItems DistinctFields)

/-- What a reader brings of an object with these fields. -/
structure Loaded (fields data : PyFields) : Prop where
  length : fields.length = data.length
  same : SameFields fields data
  distinct : Distinct (.mapping data)

/-! ## Nested values -/

/-- However a reader brings the plain value back, freezing it gives an equal
value. -/
def Refreezes (value plain : PyValue) : Prop :=
  ∀ name loaded, Same plain loaded → Distinct loaded →
    ∃ again, freezeJson name loaded = .ok again ∧ Same value again

/-- An item of a frozen mapping and the plain one that it is written as. -/
structure Written (item plain : PyKey × PyValue) : Prop where
  key : item.1 = plain.1
  refreezes : Refreezes item.2 plain.2

/-- An item that a reader brings and the frozen one made of it. -/
def Taken (loaded again : PyKey × PyValue) : Prop :=
  loaded.1 = again.1 ∧ ∃ name, freezeJson name loaded.2 = .ok again.2

theorem map_fst_of_forall₂ {relation : PyKey × PyValue → PyKey × PyValue → Prop}
    (keys : ∀ a b, relation a b → a.1 = b.1) {xs ys : PyFields}
    (related : List.Forall₂ relation xs ys) : xs.map Prod.fst = ys.map Prod.fst := by
  induction related with
  | nil => rfl
  | cons head tail ih => simp [keys _ _ head, ih]

theorem mem_left_of_forall₂ {α β : Type} {relation : α → β → Prop} {xs : List α} {ys : List β}
    (related : List.Forall₂ relation xs ys) {y : β} (mem : y ∈ ys) : ∃ x ∈ xs, relation x y := by
  induction related with
  | nil => cases mem
  | cons head tail ih =>
    rcases List.mem_cons.1 mem with rfl | behind
    · exact ⟨_, List.mem_cons_self, head⟩
    · obtain ⟨x, inside, holds⟩ := ih behind
      exact ⟨x, List.mem_cons_of_mem _ inside, holds⟩

theorem mem_right_of_forall₂ {α β : Type} {relation : α → β → Prop} {xs : List α} {ys : List β}
    (related : List.Forall₂ relation xs ys) {x : α} (mem : x ∈ xs) : ∃ y ∈ ys, relation x y :=
  mem_left_of_forall₂ related.flip mem

/-- What is taken of an object with the fields of a frozen mapping is equal to
the mapping. -/
theorem same_taken {fields plains loaded again : PyFields}
    (written : List.Forall₂ Written fields plains) (brought : Loaded plains loaded)
    (taken : List.Forall₂ Taken loaded again) :
    Same (.mapping fields) (.mapping (PyDict.ofItems again)) := by
  obtain ⟨length, same, loadedKeys, values⟩ := brought
  have againKeys : (again.map Prod.fst).Nodup := by
    rwa [← map_fst_of_forall₂ (fun _ _ h => h.1) taken]
  rw [PyDict.ofItems_eq againKeys]
  refine ⟨again, rfl, ?_, PyValue.sameFields_iff.2 ?_⟩
  · rw [written.length_eq, length, taken.length_eq]
  · intro item mem
    obtain ⟨plain, plainMem, writes⟩ := mem_right_of_forall₂ written mem
    obtain ⟨other, found, equal⟩ := PyValue.sameFields_iff.1 same plain plainMem
    obtain ⟨⟨key, value⟩, againMem, key_eq, name, freezes⟩ :=
      mem_right_of_forall₂ taken (PyDict.mem_of_lookup found)
    obtain ⟨value', freezes', kept⟩ := writes.refreezes name other equal
      (PyValue.distinctFields_iff.1 values _ (PyDict.mem_of_lookup found))
    have agree : value = value' := by
      rw [freezes] at freezes'
      exact Except.ok.inj freezes'
    refine ⟨value, PyDict.lookup_of_mem againKeys ?_, agree ▸ kept⟩
    rw [writes.key, show plain.1 = key from key_eq]
    exact againMem

/-- The fields of an object that a reader brings can all be frozen. -/
theorem loaded_field {fields plains loaded : PyFields} (frozen : FrozenFields fields)
    (nodup : (fields.map Prod.fst).Nodup) (written : List.Forall₂ Written fields plains)
    (brought : Loaded plains loaded) {item : PyKey × PyValue} (mem : item ∈ loaded) :
    ∃ text value, (PyKey.str text, value) ∈ fields ∧ item.1 = .str text ∧
      ∀ name, ∃ again, freezeJson name item.2 = .ok again ∧ Same value again := by
  obtain ⟨length, same, loadedKeys, values⟩ := brought
  have plainKeys : (plains.map Prod.fst).Nodup := by
    rwa [← map_fst_of_forall₂ (fun _ _ h => h.key) written]
  obtain ⟨plain, plainMem, equal⟩ := PyValue.Same.back plainKeys loadedKeys length same mem
  obtain ⟨⟨key, value⟩, held, writes⟩ := mem_left_of_forall₂ written plainMem
  obtain ⟨⟨text, rfl⟩, _⟩ := frozenFields_iff.1 frozen _ held
  refine ⟨text, value, held, writes.key.symm, fun name => ?_⟩
  exact writes.refreezes name item.2 equal (PyValue.distinctFields_iff.1 values _ mem)

theorem freezeJsonFields_taken {name : String} {loaded : PyFields}
    (each : ∀ item ∈ loaded, (∃ text, item.1 = .str text) ∧
      ∃ again, freezeJson name item.2 = .ok again) :
    ∃ again, freezeJsonFields name loaded = .ok again ∧ List.Forall₂ Taken loaded again := by
  induction loaded with
  | nil => exact ⟨[], rfl, .nil⟩
  | cons item loaded ih =>
    obtain ⟨key, value⟩ := item
    rw [List.forall_mem_cons] at each
    obtain ⟨⟨⟨text, equal⟩, first, freezes⟩, others⟩ := each
    obtain rfl : key = .str text := equal
    obtain ⟨rest, frozen, taken⟩ := ih others
    have freezes : freezeJson name value = .ok first := freezes
    refine ⟨(.str text, first) :: rest, ?_, .cons ⟨rfl, name, freezes⟩ taken⟩
    simp [freezeJsonFields, freezes, frozen, Except.map]

mutual

theorem refreeze {value : PyValue} (frozen : Frozen value) :
    ∃ plain, plainJson value = .ok plain ∧ Refreezes value plain := by
  cases value with
  | none | bool | int | str =>
    refine ⟨_, rfl, fun name loaded same _ => ?_⟩
    obtain rfl := same
    exact ⟨_, rfl, rfl⟩
  | float value =>
    refine ⟨_, rfl, fun name loaded same _ => ?_⟩
    obtain rfl := same
    have finite : value.isFinite = true := frozen
    exact ⟨.float value, by simp [freezeJson, finite], rfl⟩
  | tuple items =>
    obtain ⟨plains, encoded, again⟩ := refreezeItems frozen
    refine ⟨.list plains, by simp [plainJson, encoded, Except.map], fun name loaded same distinct => ?_⟩
    obtain ⟨others, rfl, same⟩ := same
    obtain ⟨tuple, freezes, equal⟩ := again name others same distinct
    exact ⟨.tuple tuple, by simp [freezeJson, freezes, Except.map], tuple, rfl, equal⟩
  | mapping fields =>
    obtain ⟨nodup, frozen⟩ := frozen
    obtain ⟨plains, encoded, written⟩ := refreezeFields frozen
    have plainKeys : (plains.map Prod.fst).Nodup := by
      rwa [← map_fst_of_forall₂ (fun _ _ h => h.key) written]
    refine ⟨.mapping plains, ?_, fun name loaded same distinct => ?_⟩
    · simp [plainJson, encoded, Except.map, PyDict.ofItems_eq plainKeys]
    · obtain ⟨others, rfl, length, same⟩ := same
      have brought : Loaded plains others := ⟨length, same, distinct⟩
      obtain ⟨again, freezes, taken⟩ := freezeJsonFields_taken fun item mem => by
        obtain ⟨text, value, _, key, all⟩ := loaded_field frozen nodup written brought mem
        obtain ⟨again, freezes, _⟩ := all name
        exact ⟨⟨text, key⟩, again, freezes⟩
      refine ⟨.mapping (PyDict.ofItems again), ?_, ?_⟩
      · simp [freezeJson, freezes, Except.map]
      · exact same_taken written brought taken
  | list | other => exact frozen.elim

theorem refreezeItems {items : List PyValue} (frozen : FrozenItems items) :
    ∃ plains, plainJsonItems items = .ok plains ∧
      ∀ name loaded, SameItems plains loaded → DistinctItems loaded →
        ∃ again, freezeJsonItems name loaded = .ok again ∧ SameItems items again := by
  cases items with
  | nil =>
    refine ⟨[], rfl, fun name loaded same _ => ?_⟩
    obtain rfl := same
    exact ⟨[], rfl, rfl⟩
  | cons item items =>
    obtain ⟨plain, encoded, again⟩ := refreeze frozen.1
    obtain ⟨plains, encodedRest, againRest⟩ := refreezeItems frozen.2
    refine ⟨plain :: plains, by simp [plainJsonItems, encoded, encodedRest, Except.map], ?_⟩
    rintro name loaded ⟨other, others, rfl, same, sameRest⟩ ⟨distinct, distinctRest⟩
    obtain ⟨first, freezes, equal⟩ := again name other same distinct
    obtain ⟨rest, freezesRest, equalRest⟩ := againRest name others sameRest distinctRest
    refine ⟨first :: rest, by simp [freezeJsonItems, freezes, freezesRest, Except.map], ?_⟩
    exact ⟨first, rest, rfl, equal, equalRest⟩

theorem refreezeFields {fields : PyFields} (frozen : FrozenFields fields) :
    ∃ plains, plainJsonFields fields = .ok plains ∧ List.Forall₂ Written fields plains := by
  cases fields with
  | nil => exact ⟨[], rfl, .nil⟩
  | cons item fields =>
    obtain ⟨key, value⟩ := item
    obtain ⟨⟨_, frozenItem⟩, frozenRest⟩ := frozen
    obtain ⟨plain, encoded, again⟩ := refreeze frozenItem
    obtain ⟨plains, encodedRest, written⟩ := refreezeFields frozenRest
    refine ⟨(key, plain) :: plains, ?_, .cons ⟨rfl, again⟩ written⟩
    simp [plainJsonFields, encoded, encodedRest, Except.map]

end

/-! ## Strict fields -/

section Fields

variable {fields data : PyFields} {key path title : String}

theorem exactFields_loaded (loaded : Loaded fields data) {expected : List String}
    (names : List String) (keys : fields.map Prod.fst = names.map PyKey.str)
    (nodup : names.Nodup) (perm : names.Perm expected) :
    exactFields path data expected title = .ok () := by
  have fieldKeys : (fields.map Prod.fst).Nodup := by
    rw [keys]
    exact nodup.map fun _ _ => PyKey.str.inj
  have same : ∀ name, name ∈ data.map Prod.fst ↔ name ∈ expected.map PyKey.str := by
    intro name
    rw [← (PyValue.Same.keys fieldKeys loaded.length loaded.same).mem_iff, keys]
    exact (perm.map PyKey.str).mem_iff
  have missing : (expected.map PyKey.str).filter (· ∉ data.map Prod.fst) = [] := by
    rw [List.filter_eq_nil_iff]
    intro name mem
    simpa using (same name).2 mem
  have unknown : (data.map Prod.fst).filter (· ∉ expected.map PyKey.str) = [] := by
    rw [List.filter_eq_nil_iff]
    intro name mem
    simpa using (same name).1 mem
  have none : firstName [] = .none := by simp [firstName]
  simp only [exactFields, missing, unknown, none]

theorem Loaded.item {value : PyValue} (loaded : Loaded fields data)
    (mem : (.str key, value) ∈ fields) :
    ∃ other, item data key = .ok other ∧ Same value other ∧ Distinct other := by
  obtain ⟨other, found, same⟩ := PyValue.sameFields_iff.1 loaded.same _ mem
  have inside := PyValue.distinctFields_iff.1 loaded.distinct.2 _ (PyDict.mem_of_lookup found)
  exact ⟨other, by simp [Persistence.item, found], same, inside⟩

theorem Loaded.str {text : String} (loaded : Loaded fields data)
    (mem : (.str key, .str text) ∈ fields) : Persistence.item data key = .ok (.str text) := by
  obtain ⟨other, found, same, _⟩ := loaded.item mem
  rw [found, show other = .str text from same]

theorem Loaded.int {n : Int} (loaded : Loaded fields data)
    (mem : (.str key, .int n) ∈ fields) : Persistence.item data key = .ok (.int n) := by
  obtain ⟨other, found, same, _⟩ := loaded.item mem
  rw [found, show other = .int n from same]

theorem Loaded.bool {b : Bool} (loaded : Loaded fields data)
    (mem : (.str key, .bool b) ∈ fields) : Persistence.item data key = .ok (.bool b) := by
  obtain ⟨other, found, same, _⟩ := loaded.item mem
  rw [found, show other = .bool b from same]

theorem Loaded.mapping {inner : PyFields} (loaded : Loaded fields data)
    (mem : (.str key, .mapping inner) ∈ fields) :
    ∃ others, Persistence.item data key = .ok (.mapping others) ∧ Loaded inner others := by
  obtain ⟨other, found, ⟨others, rfl, length, same⟩, distinct⟩ := loaded.item mem
  exact ⟨others, found, length, same, distinct⟩

theorem Loaded.list {items : List PyValue} (loaded : Loaded fields data)
    (mem : (.str key, .list items) ∈ fields) :
    ∃ others, Persistence.item data key = .ok (.list others) ∧ SameItems items others ∧
      DistinctItems others := by
  obtain ⟨other, found, ⟨others, rfl, same⟩, distinct⟩ := loaded.item mem
  exact ⟨others, found, same, distinct⟩

theorem schema_loaded {supported : Int} {legacy : List Int} (loaded : Loaded fields data)
    (mem : (.str "schema_version", .int supported) ∈ fields) :
    schema path data supported legacy = .ok supported := by
  obtain ⟨other, found, same⟩ := PyValue.sameFields_iff.1 loaded.same _ mem
  obtain rfl : other = .int supported := same
  simp [schema, found]

theorem integer_ok (n : Nat) {field : String} {positive : Bool}
    (admitted : positive = true → 0 < n) :
    integer path (.int n) field positive = .ok ⟨n, admitted⟩ := by
  have both : (0 : Int) ≤ n ∧ (positive = true → (0 : Int) < n) :=
    ⟨Int.natCast_nonneg n, fun positive => by have := admitted positive; omega⟩
  simp only [integer]
  rw [dif_pos both]
  simp

theorem integer_natural (n : Nat) (field : String) :
    integer path (.int n) field false = .ok ⟨n, fun positive => by cases positive⟩ :=
  integer_ok n _

end Fields

/-! ## Global settings -/

theorem parseGlobalV3_loaded (path : String) {document : GlobalSettingsDocument} {data : PyFields}
    (loaded : Loaded (globalData document) data) : parseGlobalV3 path data = .ok document := by
  obtain ⟨command, found, inner⟩ := loaded.mapping (List.mem_cons_of_mem _ List.mem_cons_self)
  have fields : exactFields path data ["schema_version", "hex2000_executable_path", "command",
      "log_output_path", "auto_ping_enabled"] "Global Settings" = .ok () :=
    exactFields_loaded loaded ["auto_ping_enabled", "command", "hex2000_executable_path",
      "log_output_path", "schema_version"] rfl (by decide) (by decide)
  have commandFields : exactFields path command ["timeout_ms", "max_retries", "retry_backoff_ms"]
      "command" = .ok () :=
    exactFields_loaded inner ["max_retries", "retry_backoff_ms", "timeout_ms"] rfl
      (by decide) (by decide)
  have executable : item data "hex2000_executable_path" =
      .ok (.str document.hex2000ExecutablePath) := loaded.str (by simp [globalData])
  have log : item data "log_output_path" = .ok (.str document.logOutputPath) :=
    loaded.str (by simp [globalData])
  have ping : item data "auto_ping_enabled" = .ok (.bool document.autoPingEnabled) :=
    loaded.bool (by simp [globalData])
  have timeout : item command "timeout_ms" = .ok (.int document.command.timeoutMs) :=
    inner.int (by simp)
  have retries : item command "max_retries" = .ok (.int document.command.maxRetries) :=
    inner.int (by simp)
  have backoff : item command "retry_backoff_ms" = .ok (.int document.command.retryBackoffMs) :=
    inner.int (by simp)
  have positive : integer path (.int document.command.timeoutMs) "command.timeout_ms" true =
      .ok ⟨document.command.timeoutMs, fun _ => document.command.positive⟩ :=
    integer_ok _ fun _ => document.command.positive
  simp only [parseGlobalV3, parseGlobal, bind, Except.bind, fields, commandFields, found, object,
    string, boolean, executable, log, ping, timeout, retries, backoff, positive,
    integer_natural]
  exact congrArg Except.ok document.make_self

/-! ## Sessions -/

theorem cpuOf_value (cpuId : RuntimeCpuId) : cpuOf (cpuValue cpuId) = some cpuId := by
  cases cpuId <;> decide

theorem scopeOf_value (scope : EraseScope) : scopeOf (scopeValue scope) = some scope := by
  cases scope <;> decide

theorem parseTarget_loaded (path : String) {settings : TargetSessionSettings}
    {targets data : PyFields} {cpuId : RuntimeCpuId}
    (found : item targets (cpuValue cpuId) = .ok (.mapping data))
    (loaded : Loaded (targetData settings) data) :
    parseTarget path targets cpuId = .ok settings := by
  have fields (title : String) : exactFields path data ["cpu_id", "program_image_path",
      "ram_image_path", "erase_scope", "sector_mask", "custom_sector_mask"] title = .ok () :=
    exactFields_loaded loaded ["cpu_id", "custom_sector_mask", "erase_scope", "program_image_path",
      "ram_image_path", "sector_mask"] rfl (by decide) (by decide)
  have cpu : item data "cpu_id" = .ok (.str (cpuValue settings.cpuId)) :=
    loaded.str (by simp [targetData])
  have scope : item data "erase_scope" = .ok (.str (scopeValue settings.eraseScope)) :=
    loaded.str (by simp [targetData])
  have program : item data "program_image_path" = .ok (.str settings.programImagePath) :=
    loaded.str (by simp [targetData])
  have ram : item data "ram_image_path" = .ok (.str settings.ramImagePath) :=
    loaded.str (by simp [targetData])
  have sectors : item data "sector_mask" = .ok (.int settings.sectorMask) :=
    loaded.int (by simp [targetData])
  have custom : item data "custom_sector_mask" = .ok (.int settings.customSectorMask) :=
    loaded.int (by simp [targetData])
  simp only [parseTarget, bind, Except.bind, found, object, fields, cpu, scope, program, ram,
    sectors, custom, string, cpuOf_value, scopeOf_value, integer_natural]

/-- Only a mapping is frozen to a mapping. -/
theorem mapping_of_frozen {name : String} {value : PyValue} {items : PyFields}
    (h : freezeJson name value = .ok (.mapping items)) : ∃ fields, value = .mapping fields := by
  cases value with
  | mapping fields => exact ⟨fields, rfl⟩
  | list values | tuple values =>
    rw [freezeJson] at h
    cases result : freezeJsonItems name values <;> simp [result, Except.map] at h
  | float value =>
    rw [freezeJson] at h
    split at h <;> cases h
  | none | bool | int | str | other => cases h

/-- The loop of the constructor takes every configuration that a reader
brings. -/
theorem freezeConfigs_taken {loaded : PyFields}
    (each : ∀ item ∈ loaded, (∃ text, item.1 = .str text ∧ text ≠ "") ∧
      (∃ fields, item.2 = .mapping fields) ∧
      ∀ name, ∃ again, freezeJson name item.2 = .ok again) :
    ∃ again, freezeConfigs loaded = .ok again ∧ List.Forall₂ Taken loaded again := by
  induction loaded with
  | nil => exact ⟨[], rfl, .nil⟩
  | cons item loaded ih =>
    obtain ⟨key, value⟩ := item
    rw [List.forall_mem_cons] at each
    obtain ⟨⟨⟨text, equal, nonempty⟩, ⟨fields, object⟩, freezes⟩, others⟩ := each
    obtain rfl : key = .str text := equal
    obtain rfl : value = .mapping fields := object
    obtain ⟨rest, frozen, taken⟩ := ih others
    obtain ⟨first, freezes⟩ := freezes ("transport_configs." ++ text)
    have freezes : freezeJson ("transport_configs." ++ text) (.mapping fields) = .ok first :=
      freezes
    refine ⟨(.str text, first) :: rest, ?_, .cons ⟨rfl, _, freezes⟩ taken⟩
    simp [freezeConfigs, nonempty, freezes, frozen, Except.map]

theorem SessionDocument.make_ok {selected : String} {fields items : PyFields}
    {targets : RuntimeCpuId → TargetSessionSettings} (nonempty : selected ≠ "")
    (frozen : freezeConfigs fields = .ok items)
    (config : .str selected ∈ (PyDict.ofItems items).map Prod.fst)
    (cpus : ∀ cpuId, (targets cpuId).cpuId = cpuId) :
    ∃ document, SessionDocument.make selected (.mapping fields)
        (fun cpuId => some (targets cpuId)) = .ok document ∧
      document.selectedTransport = selected ∧
      document.transportConfigs = PyDict.ofItems items ∧ document.targetSettings = targets := by
  unfold SessionDocument.make
  rw [dif_neg nonempty]
  dsimp only
  split
  next error failed =>
    rw [frozen] at failed
    cases failed
  next found result =>
    obtain rfl : items = found := by
      rw [frozen] at result
      exact Except.ok.inj result
    rw [dif_pos config]
    refine ⟨_, dif_pos ⟨cpus .cpu1, cpus .cpu2⟩, rfl, rfl, ?_⟩
    funext cpuId
    cases cpuId <;> rfl

theorem parseSession_loaded (path : String) {document : SessionDocument} {encoded data : PyFields}
    (encodes : sessionData document = .ok encoded) (loaded : Loaded encoded data) :
    ∃ restored, parseSession path data = .ok restored ∧ document.Same restored := by
  obtain ⟨nodup, frozen⟩ := document.frozen
  obtain ⟨plains, plain, written⟩ := refreezeFields frozen
  have keys := map_fst_of_forall₂ (fun _ _ h => h.key) written
  have configsPlain : plainJson (.mapping document.transportConfigs) = .ok (.mapping plains) := by
    simp [plainJson, plain, Except.map, PyDict.ofItems_eq (keys ▸ nodup)]
  rw [sessionData, configsPlain] at encodes
  obtain rfl := Except.ok.inj encodes
  have fields : exactFields path data ["schema_version", "selected_transport", "transport_configs",
      "target_settings"] "Session" = .ok () :=
    exactFields_loaded loaded ["schema_version", "selected_transport", "target_settings",
      "transport_configs"] rfl (by decide) (by decide)
  have version : schema path data sessionSchemaVersion [] = .ok sessionSchemaVersion :=
    schema_loaded loaded (by simp)
  have selected : item data "selected_transport" = .ok (.str document.selectedTransport) :=
    loaded.str (by simp)
  obtain ⟨configs, configsFound, brought⟩ : ∃ others,
      item data "transport_configs" = .ok (.mapping others) ∧ Loaded plains others :=
    loaded.mapping (by simp)
  obtain ⟨targets, targetsFound, targetsBrought⟩ : ∃ others,
      item data "target_settings" = .ok (.mapping others) ∧
        Loaded (targetsData document.targetSettings) others :=
    loaded.mapping (by simp)
  have target (cpuId : RuntimeCpuId) :
      parseTarget path targets cpuId = .ok (document.targetSettings cpuId) := by
    obtain ⟨held, found, settings⟩ : ∃ others,
        item targets (cpuValue cpuId) = .ok (.mapping others) ∧
          Loaded (targetData (document.targetSettings cpuId)) others :=
      targetsBrought.mapping (by cases cpuId <;> simp [targetsData])
    exact parseTarget_loaded path found settings
  have names : targets.map Prod.fst ⊆ [RuntimeCpuId.cpu1, .cpu2].map (fun cpuId =>
      PyKey.str (cpuValue cpuId)) ∧ [RuntimeCpuId.cpu1, .cpu2].map (fun cpuId =>
      PyKey.str (cpuValue cpuId)) ⊆ targets.map Prod.fst := by
    have perm := PyValue.Same.keys (by simp [targetsData]; decide) targetsBrought.length
      targetsBrought.same
    exact ⟨perm.symm.subset, perm.subset⟩
  obtain ⟨again, frozenAgain, taken⟩ := freezeConfigs_taken fun item mem => by
    obtain ⟨text, value, held, key, freezes⟩ := loaded_field frozen nodup written brought mem
    obtain ⟨nonempty, inner, object⟩ := document.objects _ held
    obtain ⟨frozenItem, freezesItem, sameItem⟩ := freezes ""
    obtain rfl : value = .mapping inner := object
    obtain ⟨others, rfl, _, _⟩ := sameItem
    refine ⟨⟨text, key, by simpa using nonempty⟩, mapping_of_frozen freezesItem, fun name => ?_⟩
    obtain ⟨frozenItem, freezesItem, _⟩ := freezes name
    exact ⟨frozenItem, freezesItem⟩
  have equal := same_taken written brought taken
  have config : .str document.selectedTransport ∈ (PyDict.ofItems again).map Prod.fst := by
    obtain ⟨others, same, length, fields⟩ := equal
    obtain rfl := PyValue.mapping.inj same
    exact (PyValue.Same.keys nodup length fields).subset document.selected_config
  obtain ⟨restored, made, sameSelected, sameConfigs, sameTargets⟩ :=
    SessionDocument.make_ok document.selected_nonempty frozenAgain config document.cpus
  refine ⟨restored, ?_, sameSelected.symm, sameConfigs ▸ equal, sameTargets.symm⟩
  have cpus : parsedTargets (document.targetSettings .cpu1) (document.targetSettings .cpu2) =
      document.targetSettings := by
    funext cpuId
    cases cpuId <;> rfl
  simp only [parseSession, bind, Except.bind, version, fields, selected, string, configsFound,
    targetsFound, object, target, cpus]
  rw [if_pos names, made]
  rfl

/-! ## The runtime cache -/

/-- The texts of a UTC time bring it back. -/
def IsoLibrary.Reproduces (iso : IsoLibrary) (time : Datetime) : Prop :=
  ∃ body, iso.isoformat time = body ++ "+00:00" ∧ '+' ∉ body.toList ∧
    iso.fromisoformat (body ++ "+00:00") = .ok time

theorem toUtc_self {time : Datetime} (utc : time.utcoffset = some 0) : time.toUtc = time := by
  obtain ⟨clock, offset⟩ := time
  obtain rfl : offset = some 0 := utc
  simp [Datetime.toUtc, Datetime.instant]

theorem utcText_eq {iso : IsoLibrary} {time : Datetime} {body : String}
    (utc : time.utcoffset = some 0) (written : iso.isoformat time = body ++ "+00:00")
    (absent : '+' ∉ body.toList) : utcText iso time = body ++ "Z" := by
  have text : (body ++ "+00:00").toList = body.toList ++ '+' :: "00:00".toList := by
    simp
  rw [utcText, toUtc_self utc, written, PyText.replace, text]
  have whole : "+00:00".toList = '+' :: "00:00".toList := by simp
  rw [whole, PyText.replaceFrom_end absent, String.ofList_append, String.ofList_toList,
    String.ofList_toList]

theorem endsWith_append (body : String) (last : Char) :
    PyText.endsWith (body ++ String.singleton last) last = true := by
  simp [PyText.endsWith]

theorem withoutLast_append (body : String) (last : Char) :
    PyText.withoutLast (body ++ String.singleton last) = body := by
  simp [PyText.withoutLast]

variable {paths : PathLibrary} {iso : IsoLibrary}

theorem parseEntry_loaded (stable : paths.Stable) (path : String) (index : Nat)
    {entry : RecentSessionEntry paths} (reproduced : iso.Reproduces entry.lastSavedAtUtc)
    {data : PyFields} (loaded : Loaded (entryData iso entry) data) :
    parseEntry iso paths path index (.mapping data) = .ok entry := by
  obtain ⟨body, written, absent, read⟩ := reproduced
  have fields (title : String) :
      exactFields path data ["path", "last_saved_at_utc"] title = .ok () :=
    exactFields_loaded loaded ["last_saved_at_utc", "path"] rfl (by decide) (by decide)
  have pathText : item data "path" = .ok (.str entry.path) := loaded.str (by simp [entryData])
  have timestamp : item data "last_saved_at_utc" = .ok (.str (body ++ "Z")) := by
    rw [← utcText_eq entry.utc written absent]
    exact loaded.str (by simp [entryData])
  have ends : PyText.endsWith (body ++ "Z") 'Z' = true := endsWith_append body 'Z'
  have front : PyText.withoutLast (body ++ "Z") = body := withoutLast_append body 'Z'
  simp only [parseEntry, bind, Except.bind, object, fields, pathText, timestamp, string, ends,
    ite_true, front, read, entry.make_self stable]
  rfl

theorem parseEntries_loaded (stable : paths.Stable) (path : String) (index : Nat)
    {entries : List (RecentSessionEntry paths)}
    (reproduced : ∀ entry ∈ entries, iso.Reproduces entry.lastSavedAtUtc)
    {values : List PyValue}
    (same : SameItems (entries.map fun entry => .mapping (entryData iso entry)) values)
    (distinct : DistinctItems values) :
    parseEntries iso paths path index values = .ok entries := by
  induction entries generalizing index values with
  | nil =>
    obtain rfl := same
    rfl
  | cons entry entries ih =>
    obtain ⟨_, rest, rfl, ⟨data, rfl, length, same⟩, sameRest⟩ := same
    obtain ⟨distinct, distinctRest⟩ := distinct
    rw [List.forall_mem_cons] at reproduced
    have first := parseEntry_loaded stable path index reproduced.1 ⟨length, same, distinct⟩
    have others := ih (index + 1) reproduced.2 sameRest distinctRest
    simp only [parseEntries, bind, Except.bind, first, others]

theorem parseCache_loaded (stable : paths.Stable) (path : String)
    {document : RuntimeCacheDocument paths}
    (reproduced : ∀ entry ∈ document.recentSessions, iso.Reproduces entry.lastSavedAtUtc)
    {data : PyFields} (loaded : Loaded (cacheData iso document) data) :
    parseCache iso paths path data = .ok document := by
  have fields : exactFields path data ["schema_version", "recent_sessions"] "Runtime Cache" =
      .ok () :=
    exactFields_loaded loaded ["recent_sessions", "schema_version"] rfl (by decide) (by decide)
  have version : schema path data runtimeCacheSchemaVersion [] = .ok runtimeCacheSchemaVersion :=
    schema_loaded loaded (by simp [cacheData])
  obtain ⟨values, found, same, distinct⟩ := loaded.list List.mem_cons_self
  have entries := parseEntries_loaded stable path 0 reproduced same distinct
  simp only [parseCache, bind, Except.bind, version, fields, found, entries, document.make_self]

end BootUpgrade.Persistence
