import BootUpgrade.Host.FrameReader

/-!
# The protocol client of the host

`BootProtocolClient.transact` of `protocol/boot_protocol_client.py` over a byte
transport, the capabilities it caches, and the sessions of
`session/session.py`.
-/

namespace BootUpgrade

namespace HostProtocol

/-! ## Sequence numbers -/

/-- `next_sequence`. -/
def nextSequence (previous : UInt16) : UInt16 :=
  if previous = 0 ∨ previous = 0xFFFF then 1 else previous + 1

theorem nextSequence_ne (previous : UInt16) : nextSequence previous ≠ 0 := by
  unfold nextSequence
  split
  · decide
  · rename_i middle
    intro zero
    apply middle
    right
    have := congrArg UInt16.toNat zero
    have bound := previous.toNat_lt
    rw [UInt16.toNat_add] at this
    apply UInt16.toNat_inj.1
    show previous.toNat = 65535
    have one : (1 : UInt16).toNat = 1 := rfl
    have none : (0 : UInt16).toNat = 0 := rfl
    omega

/-- The sequence of the `n`-th request whose `write_all` has returned. -/
def sequenceAfter : Nat → UInt16
  | 0 => 0
  | n + 1 => nextSequence (sequenceAfter n)

theorem toNat_sequenceAfter (n : Nat) : (sequenceAfter (n + 1)).toNat = n % 65535 + 1 := by
  induction n with
  | zero => rfl
  | succ n ih =>
    have max : (0xFFFF : UInt16).toNat = 65535 := rfl
    have zero : (0 : UInt16).toNat = 0 := rfl
    have one : (1 : UInt16).toNat = 1 := rfl
    rw [sequenceAfter]
    generalize sequenceAfter (n + 1) = previous at ih ⊢
    unfold nextSequence
    split
    · rename_i wraps
      rcases wraps with rfl | rfl
      · omega
      · omega
    · rename_i middle
      have last : previous.toNat ≠ 65535 := fun h => middle (.inr (UInt16.toNat_inj.1 h))
      rw [UInt16.toNat_add]
      omega

/-- Fewer than 65535 requests apart, a sequence names its request. -/
theorem sequenceAfter_inj {m n : Nat} (le : m ≤ n) (near : n - m < 65535)
    (same : sequenceAfter (m + 1) = sequenceAfter (n + 1)) : m = n := by
  have := congrArg UInt16.toNat same
  rw [toNat_sequenceAfter, toNat_sequenceAfter] at this
  omega

/-! ## Capabilities -/

/-- `DeviceInfo`, with the checks of its constructor. -/
structure DeviceInfo extends BootDeviceInfo where
  data_multiple : maxDataWords ≠ 0 ∧ maxDataWords.toNat % 8 = 0
  data_fits : maxDataWords.toNat + 5 ≤ maxPayloadWords.toNat

def DeviceInfo.create (info : BootDeviceInfo) : Except HostError DeviceInfo :=
  if multiple : info.maxDataWords ≠ 0 ∧ info.maxDataWords.toNat % 8 = 0 then
    if fits : info.maxDataWords.toNat + 5 ≤ info.maxPayloadWords.toNat then
      .ok ⟨info, multiple, fits⟩
    else .error (.valueError "max_data_words plus 5 metadata words must fit max_payload_words")
  else .error (.valueError "max_data_words must be a positive multiple of 8")

/-- `DeviceInfo.from_words`. -/
def DeviceInfo.fromWords : List UInt16 → Except HostError DeviceInfo
  | [deviceId, cpuId, kernelVerMajor, kernelVerMinor, kernelVerPatch, protocolVer, featureLow,
      featureHigh, maxPayloadWords, maxDataWords, bootMode, kernelLayout, revisionLow, revisionHigh,
      uidLow, uidHigh] =>
    DeviceInfo.create {
      deviceId, cpuId, kernelVerMajor, kernelVerMinor, kernelVerPatch, protocolVer
      featureFlags := joinU32 featureLow featureHigh
      maxPayloadWords, maxDataWords, bootMode, kernelLayout
      revisionId := joinU32 revisionLow revisionHigh
      uidUnique := joinU32 uidLow uidHigh }
  | _ => .error (.valueError "DeviceInfo requires exactly 16 words")

/-- `ProtocolInfo`, as `from_words` admits it. -/
structure ProtocolInfo where
  protocolVer : UInt16
  minSupportedVer : UInt16
  maxSupportedVer : UInt16
  headerWords : UInt16
  crcType : UInt16
  endian : UInt16
  maxPayloadWords : UInt16
  flags : UInt16
  payload_ne : maxPayloadWords ≠ 0
  version : protocolVer = protocolVersion
  supported : minSupportedVer ≤ protocolVersion ∧ protocolVersion ≤ maxSupportedVer
  header : headerWords = protocolHeaderWords
  crc : crcType = 1
  little : endian = 1

/-- `ProtocolInfo.from_words`. -/
def ProtocolInfo.fromWords : List UInt16 → Except HostError ProtocolInfo
  | [protocolVer, minSupportedVer, maxSupportedVer, headerWords, crcType, endian, maxPayloadWords,
      flags] =>
    if payload_ne : maxPayloadWords = 0 then
      .error (.protocolDecodeError "ProtocolInfo max_payload_words must be positive")
    else if version : protocolVer ≠ protocolVersion then
      .error (.protocolDecodeError "unsupported ProtocolInfo protocol_ver")
    else if supported : minSupportedVer > protocolVersion ∨ maxSupportedVer < protocolVersion then
      .error (.protocolDecodeError "host protocol version is outside the supported range")
    else if header : headerWords ≠ protocolHeaderWords then
      .error (.protocolDecodeError "unsupported ProtocolInfo header_words")
    else if crc : crcType ≠ 1 then
      .error (.protocolDecodeError "unsupported ProtocolInfo crc_type")
    else if little : endian ≠ 1 then
      .error (.protocolDecodeError "unsupported ProtocolInfo endian")
    else
      .ok {
        protocolVer, minSupportedVer, maxSupportedVer, headerWords, crcType, endian
        maxPayloadWords, flags, payload_ne
        version := Decidable.not_not.1 version
        supported :=
          ⟨UInt16.not_lt.1 (not_or.1 supported).1, UInt16.not_lt.1 (not_or.1 supported).2⟩
        header := Decidable.not_not.1 header
        crc := Decidable.not_not.1 crc
        little := Decidable.not_not.1 little }
  | _ => .error (.protocolDecodeError "ProtocolInfo requires exactly 8 words")

/-! ## The client -/

/-- `BootProtocolClient`, with the buffer of its frame reader. -/
structure BootProtocolClient where
  sequence : UInt16
  deviceInfo : Option DeviceInfo
  protocolInfo : Option ProtocolInfo
  buffer : List UInt8

namespace BootProtocolClient

/-- A client that has not been used. -/
def new : BootProtocolClient := ⟨0, none, none, []⟩

/-- `reset_connection_state`. -/
def resetConnectionState (client : BootProtocolClient) : BootProtocolClient :=
  { client with sequence := 0, deviceInfo := none, protocolInfo := none }

/-- `effective_max_payload_words`. -/
def effectiveMaxPayloadWords (client : BootProtocolClient) : Except HostError Nat :=
  match client.deviceInfo, client.protocolInfo with
  | some device, some protocol =>
    let limit := min device.maxPayloadWords.toNat protocol.maxPayloadWords.toNat
    if limit = 0 then
      .error (.protocolDecodeError "effective max payload words must be positive")
    else .ok limit
  | _, _ => .error (.protocolDecodeError "device and protocol capabilities are required")

/-- `BOOTSTRAP_MAX_PAYLOAD_WORDS`. -/
def bootstrapMaxPayloadWords : Nat := 16

/-- `_BOOTSTRAP_COMMANDS`. -/
def bootstrapCommands : List UInt16 :=
  [BootCmd.ping, BootCmd.getDeviceInfo, BootCmd.getProtocolInfo, BootCmd.getLastError]

/-- `_payload_limit`. -/
def payloadLimit (client : BootProtocolClient) (command : UInt16) : Except HostError Nat :=
  if client.deviceInfo.isSome ∧ client.protocolInfo.isSome then client.effectiveMaxPayloadWords
  else if command ∉ bootstrapCommands then client.effectiveMaxPayloadWords
  else
    let device := client.deviceInfo.toList.map (·.maxPayloadWords.toNat)
    let protocol := client.protocolInfo.toList.map (·.maxPayloadWords.toNat)
    .ok ((device ++ protocol).filter (0 < ·) |>.foldl min bootstrapMaxPayloadWords)

/-- Four upper-case hexadecimal digits. -/
def hex (value : UInt16) : String :=
  let digits := (Nat.toDigits 16 value.toNat).map Char.toUpper
  String.ofList (List.replicate (4 - digits.length) '0' ++ digits)

/-- `_cache_capability`. -/
def cacheCapability (client : BootProtocolClient) (command : UInt16) (payload : List UInt16) :
    Except HostError BootProtocolClient :=
  if command = BootCmd.getDeviceInfo then
    match DeviceInfo.fromWords payload with
    | .error (.valueError message) => .error (.protocolDecodeError message)
    | .error error => .error error
    | .ok info =>
      match client.deviceInfo with
      | some cached =>
        if info.deviceId ≠ cached.deviceId ∨ info.cpuId ≠ cached.cpuId then
          .error (.protocolDecodeError
            ("DeviceInfo target identity changed: cached device_id=0x" ++ hex cached.deviceId ++
              ", cpu_id=" ++ toString cached.cpuId.toNat ++ "; received device_id=0x" ++
              hex info.deviceId ++ ", cpu_id=" ++ toString info.cpuId.toNat))
        else cacheDevice info
      | none => cacheDevice info
  else if command = BootCmd.getProtocolInfo then
    match ProtocolInfo.fromWords payload with
    | .error error => .error error
    | .ok info =>
      if client.deviceInfo.any (fun device => info.protocolVer ≠ device.protocolVer) then
        .error (.protocolDecodeError "DeviceInfo and ProtocolInfo protocol versions do not match")
      else .ok { client with protocolInfo := info }
  else .ok client
where
  cacheDevice (info : DeviceInfo) : Except HostError BootProtocolClient :=
    if client.protocolInfo.any (fun protocol => info.protocolVer ≠ protocol.protocolVer) then
      .error (.protocolDecodeError "DeviceInfo and ProtocolInfo protocol versions do not match")
    else .ok { client with deviceInfo := info }

/-- `DEFAULT_COMMAND_TIMEOUT_MS.get(command, 1000)`. -/
def defaultTimeoutMs (command : UInt16) : Int :=
  if command = BootCmd.erase then 60000
  else if command ∈ [BootCmd.programBegin, BootCmd.programData, BootCmd.programEnd,
      BootCmd.verifyBegin, BootCmd.verifyData, BootCmd.verifyEnd, BootCmd.metadataAppendRecord,
      BootCmd.ramLoadBegin, BootCmd.ramLoadData, BootCmd.ramLoadEnd, BootCmd.ramCheckCrc,
      BootCmd.serviceAttach] then 10000
  else if command ∈ [BootCmd.run, BootCmd.reset, BootCmd.runRam, BootCmd.getServiceStatus,
      BootCmd.memoryRead] then 5000
  else 1000

/-- `timeout_ms or DEFAULT_COMMAND_TIMEOUT_MS.get(command, 1000)`. -/
def effectiveTimeoutMs (command : UInt16) : Option Int → Int
  | none | some 0 => defaultTimeoutMs command
  | some timeoutMs => timeoutMs

/-- What `transact` does with the response frame: the checks, and the cache. -/
def conclude (client : BootProtocolClient) (request response : Frame) :
    Except HostError (List UInt16 × BootProtocolClient) :=
  if response.sequence ≠ request.sequence then
    .error (.protocolDecodeError ("response sequence " ++ toString response.sequence.toNat ++
      " does not match request " ++ toString request.sequence.toNat))
  else if response.command ≠ request.command then
    .error (.protocolDecodeError "response command does not match request")
  else if response.packetType ≠ pktResponse ∧ response.packetType ≠ pktErrorResponse then
    .error (.protocolDecodeError "unexpected response packet type")
  else if response.status ≠ BootStatus.ok then
    .error (.protocolStatusError response.command response.status)
  else if response.packetType ≠ pktResponse then
    .error (.protocolDecodeError "OK status requires a normal response packet")
  else do
    let client ← client.cacheCapability request.command response.payload
    return (response.payload, client)

/-- What `transact` leaves. -/
structure Transacted (τ : Type) where
  result : Except HostError (List UInt16)
  client : BootProtocolClient
  transport : τ

variable {τ : Type}

/-- The end of `transact`, from the frame that was read or the exception. -/
def respond (client : BootProtocolClient) (request : Frame) :
    Except HostError Frame → Except HostError (List UInt16) × BootProtocolClient
  | .error (.frameError _ message) => (.error (.protocolDecodeError message), client)
  | .error error => (.error error, client)
  | .ok response =>
    match client.conclude request response with
    | .error error => (.error error, client)
    | .ok (payload, client) => (.ok payload, client)

/-- `transact`. -/
def transact (t : ByteTransport τ) (command : UInt16) (payload : List Int) (timeoutMs : Option Int)
    (client : BootProtocolClient) (s : τ) : Transacted τ :=
  match client.payloadLimit command with
  | .error error => ⟨.error error, client, s⟩
  | .ok maxPayload =>
    if payload.length > maxPayload then
      ⟨.error (.payloadLimitError command payload.length maxPayload), client, s⟩
    else
      let sequence := nextSequence client.sequence
      match Frame.create pktRequest.toNat command.toNat sequence.toNat payload 0 0
        protocolVersion.toNat with
      | .error error => ⟨.error error, client, s⟩
      | .ok request =>
        match t.writeAll request.encodeBytes s with
        | (.error error, s) => ⟨.error error, client, s⟩
        | (.ok (), s) =>
          let client := { client with sequence }
          let read := readFrame t (effectiveTimeoutMs command timeoutMs) maxPayload client.buffer s
          let ended := { client with buffer := read.buffer }.respond request read.result
          ⟨ended.1, ended.2, read.transport⟩

/-! ## What a transaction comes to -/

theorem cacheCapability_kept {client client' : BootProtocolClient} {command : UInt16}
    {payload : List UInt16} (cached : client.cacheCapability command payload = .ok client') :
    client'.sequence = client.sequence ∧ client'.buffer = client.buffer := by
  have device (info : DeviceInfo) (h : cacheCapability.cacheDevice client info = .ok client') :
      client'.sequence = client.sequence ∧ client'.buffer = client.buffer := by
    unfold cacheCapability.cacheDevice at h
    split at h
    · cases h
    · cases h
      exact ⟨rfl, rfl⟩
  unfold cacheCapability at cached
  split at cached
  · split at cached
    · cases cached
    · cases cached
    · split at cached
      · split at cached
        · cases cached
        · exact device _ cached
      · exact device _ cached
  split at cached
  · split at cached
    · cases cached
    · split at cached
      · cases cached
      · cases cached
        exact ⟨rfl, rfl⟩
  · cases cached
    exact ⟨rfl, rfl⟩

/-- What it takes for `transact` to return a payload. -/
structure Concluded (client : BootProtocolClient) (request response : Frame)
    (payload : List UInt16) (client' : BootProtocolClient) : Prop where
  sequence : response.sequence = request.sequence
  command : response.command = request.command
  status : response.status = BootStatus.ok
  packetType : response.packetType = pktResponse
  cached : client.cacheCapability request.command response.payload = .ok client'
  payload : payload = response.payload

theorem conclude_ok {client client' : BootProtocolClient} {request response : Frame}
    {payload : List UInt16} :
    client.conclude request response = .ok (payload, client') ↔
      Concluded client request response payload client' := by
  unfold conclude
  constructor
  · intro concluded
    split at concluded
    · cases concluded
    rename_i sequence
    split at concluded
    · cases concluded
    rename_i command
    split at concluded
    · cases concluded
    split at concluded
    · cases concluded
    rename_i status
    split at concluded
    · cases concluded
    rename_i packetType
    cases cached : client.cacheCapability request.command response.payload with
    | error error =>
      rw [cached] at concluded
      cases concluded
    | ok kept =>
      rw [cached] at concluded
      cases concluded
      exact ⟨Decidable.not_not.1 sequence, Decidable.not_not.1 command, Decidable.not_not.1 status,
        Decidable.not_not.1 packetType, cached, rfl⟩
  · rintro ⟨sequence, command, status, packetType, cached, rfl⟩
    rw [if_neg (not_not_intro sequence), if_neg (not_not_intro command),
      if_neg (fun h => h.1 packetType), if_neg (not_not_intro status),
      if_neg (not_not_intro packetType), cached]
    rfl

theorem respond_kept (client : BootProtocolClient) (request : Frame)
    (read : Except HostError Frame) :
    (client.respond request read).2.sequence = client.sequence ∧
      (client.respond request read).2.buffer = client.buffer := by
  rcases read with error | response
  · cases error <;> exact ⟨rfl, rfl⟩
  · unfold respond
    dsimp only
    rcases concluded : client.conclude request response with error | ⟨payload, client'⟩
    · exact ⟨rfl, rfl⟩
    · exact cacheCapability_kept (conclude_ok.1 concluded).cached

theorem respond_error (client : BootProtocolClient) (request : Frame) (error : HostError) :
    ∃ error', (client.respond request (.error error)).1 = .error error' := by
  cases error <;> exact ⟨_, rfl⟩

theorem respond_ok {client : BootProtocolClient} {request : Frame} {read : Except HostError Frame}
    {payload : List UInt16} (returned : (client.respond request read).1 = .ok payload) :
    ∃ response client', read = .ok response ∧
      Concluded client request response payload client' := by
  rcases read with error | response
  · cases error <;> cases returned
  · unfold respond at returned
    dsimp only at returned
    rcases concluded : client.conclude request response with error | ⟨payload', client'⟩
    · rw [concluded] at returned
      cases returned
    · rw [concluded] at returned
      cases returned
      exact ⟨response, client', rfl, conclude_ok.1 concluded⟩

/-- The request that `transact` sends. -/
structure Requests (client : BootProtocolClient) (command : UInt16) (payload : List Int)
    (request : Frame) : Prop where
  command : request.command = command
  sequence : request.sequence = nextSequence client.sequence
  payload : ints request.payload = payload

theorem cacheDevice_buffer (client : BootProtocolClient) (info : DeviceInfo) (buffer : List UInt8) :
    cacheCapability.cacheDevice { client with buffer } info =
      (cacheCapability.cacheDevice client info).map fun client => { client with buffer } := by
  unfold cacheCapability.cacheDevice
  split <;> rfl

theorem cacheCapability_buffer (client : BootProtocolClient) (command : UInt16)
    (payload : List UInt16) (buffer : List UInt8) :
    { client with buffer }.cacheCapability command payload =
      (client.cacheCapability command payload).map fun client => { client with buffer } := by
  unfold cacheCapability
  split
  · rcases DeviceInfo.fromWords payload with error | info
    · cases error <;> rfl
    rcases client.deviceInfo with _ | device
    · exact cacheDevice_buffer client info buffer
    · dsimp only
      split
      · rfl
      · exact cacheDevice_buffer client info buffer
  split
  · rcases ProtocolInfo.fromWords payload with error | info
    · rfl
    · dsimp only
      split <;> rfl
  · rfl

theorem conclude_buffer (client : BootProtocolClient) (request response : Frame)
    (buffer : List UInt8) :
    { client with buffer }.conclude request response =
      (client.conclude request response).map fun ended => (ended.1, { ended.2 with buffer }) := by
  unfold conclude
  split
  · rfl
  split
  · rfl
  split
  · rfl
  split
  · rfl
  split
  · rfl
  rw [cacheCapability_buffer]
  cases client.cacheCapability request.command response.payload <;> rfl

theorem respond_buffer (client : BootProtocolClient) (request : Frame)
    (read : Except HostError Frame) (buffer : List UInt8) :
    { client with buffer }.respond request read =
      ((client.respond request read).1, { (client.respond request read).2 with buffer }) := by
  rcases read with error | response
  · cases error <;> rfl
  · unfold respond
    dsimp only
    rw [conclude_buffer]
    rcases client.conclude request response with error | ⟨payload, client'⟩ <;> rfl

/-- A `transact` sends nothing, or fails to write its request, or reads a frame. -/
theorem transact_cases (t : ByteTransport τ) (command : UInt16) (payload : List Int)
    (timeoutMs : Option Int) (client : BootProtocolClient) (s : τ) :
    (∃ error, transact t command payload timeoutMs client s = ⟨.error error, client, s⟩) ∨
    ∃ request limit, Requests client command payload request ∧
      client.payloadLimit command = .ok limit ∧
      ((∃ error s', t.writeAll request.encodeBytes s = (.error error, s') ∧
          transact t command payload timeoutMs client s = ⟨.error error, client, s'⟩) ∨
        ∃ s' read, t.writeAll request.encodeBytes s = (.ok (), s') ∧
          read = readFrame t (effectiveTimeoutMs command timeoutMs) limit client.buffer s' ∧
          transact t command payload timeoutMs client s =
            ⟨({ client with sequence := request.sequence, buffer := read.buffer }.respond request
                read.result).1,
              ({ client with sequence := request.sequence, buffer := read.buffer }.respond request
                read.result).2,
              read.transport⟩) := by
  unfold transact
  cases limited : client.payloadLimit command with
  | error error => exact .inl ⟨error, rfl⟩
  | ok limit =>
    dsimp only
    split
    · exact .inl ⟨_, rfl⟩
    cases created : Frame.create pktRequest.toNat command.toNat (nextSequence client.sequence).toNat
      payload 0 0 protocolVersion.toNat with
    | error error => exact .inl ⟨error, rfl⟩
    | ok request =>
      obtain ⟨-, sameCommand, sequence, words⟩ := Frame.create_fields
        (show Frame.create pktRequest.toNat command.toNat (nextSequence client.sequence).toNat payload
          (0 : UInt16).toNat (0 : UInt16).toNat protocolVersion.toNat = .ok request from created)
      refine .inr ⟨request, limit, ⟨sameCommand, sequence, words⟩, rfl, ?_⟩
      dsimp only
      rcases written : t.writeAll request.encodeBytes s with ⟨error | ⟨⟩, s'⟩
      · exact .inl ⟨error, s', rfl, rfl⟩
      · refine .inr ⟨s', _, rfl, rfl, ?_⟩
        rw [sequence]

end BootProtocolClient

end HostProtocol

end BootUpgrade
