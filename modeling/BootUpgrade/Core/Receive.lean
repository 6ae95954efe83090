import BootUpgrade.Common.Wire
import BootUpgrade.Core.Algorithm
import BootUpgrade.Lib.Search

/-!
# The frames of the bootloader

`boot_protocol_core.c` over the bytes that have not been read yet. A byte that
has been read cannot be given back, and `none` stands for a read that waits for
more bytes.
-/

namespace BootUpgrade

namespace BootProtocol

open BootAlgorithm (ReceiveResult)

/-- `BootProtocol_FindMagicBytes` after `matched` bytes of the magic: the bytes
behind the magic. -/
def findMagicBytes (matched : Nat) : List UInt8 → Option (List UInt8)
  | [] => none
  | byteValue :: rest =>
    if byteValue = magicBytes.getD matched 0 then
      if matched + 1 = 4 then some rest else findMagicBytes (matched + 1) rest
    else findMagicBytes (if byteValue = magicBytes.getD 0 0 then 1 else 0) rest

/-- `BootProtocol_ReadWordFromBytes`. -/
def readWordFromBytes : List UInt8 → Option (UInt16 × List UInt8)
  | low :: high :: rest => some (joinBytes low high, rest)
  | _ => none

/-- A loop of `BootProtocol_ReadWordFromBytes`. -/
def readWords : Nat → List UInt8 → Option (List UInt16 × List UInt8)
  | 0, bytes => some ([], bytes)
  | n + 1, bytes => do
    let (word, rest) ← readWordFromBytes bytes
    let (words, rest) ← readWords n rest
    return (word :: words, rest)

/-- What `BootProtocol_Receive` returns, and the bytes it has not read. -/
structure Received where
  result : ReceiveResult
  frame : BootProtocolFrame
  rest : List UInt8

/-- The frame with the header and the payload words stored; the rest of the
payload buffer stays. -/
def storeFrame (frame : BootProtocolFrame) (header payload : List UInt16)
    (small : header.getD 8 0 ≤ maxPayloadWords) : BootProtocolFrame where
  protocolVer := header.getD 2 0
  packetType := header.getD 3 0
  command := header.getD 4 0
  sequence := header.getD 5 0
  flags := header.getD 6 0
  status := header.getD 7 0
  payloadWords := header.getD 8 0
  payload := Vector.ofFn fun i => payload.getD i frame.payload[i]
  payloadWords_le := UInt16.le_iff_toNat_le.1 small

/-- The loop of `BootProtocol_Receive`; each turn reads at least the magic, so
as many turns as there are bytes are enough. -/
def receiveLoop : Nat → BootProtocolFrame → List UInt8 → Option Received
  | 0, _, _ => none
  | turns + 1, frame, bytes => do
    let rest ← findMagicBytes 0 bytes
    let (words, rest) ← readWords 8 rest
    let header := magic0 :: magic1 :: words
    if accepted : crcWords (header.take 9) = header.getD 9 0 ∧ header.getD 8 0 ≤ maxPayloadWords then
      let (payload, rest) ← readWords (header.getD 8 0).toNat rest
      let (receivedPayloadCrc, rest) ← readWordFromBytes rest
      let result :=
        if crcWords payload ≠ receivedPayloadCrc then ReceiveResult.badPayloadCrc else .ok
      return ⟨result, storeFrame frame header payload accepted.2, rest⟩
    else receiveLoop turns frame rest

/-- `BootProtocol_Receive`. -/
def receive (frame : BootProtocolFrame) (bytes : List UInt8) : Option Received :=
  receiveLoop (bytes.length + 1) frame bytes

/-- The words `BootProtocol_SendResponse` sends. -/
def sendResponse (request : BootProtocolFrame) (packetType status : UInt16) (payload : List UInt16)
    (payloadWords : UInt16) : List UInt16 :=
  let header := [magic0, magic1, protocolVersion, packetType, request.command, request.sequence,
    protocolFlagNone, status, payloadWords]
  let payload := payload.take payloadWords.toNat
  header ++ [crcWords header] ++ payload ++ [crcWords payload]

/-! ## The search for the magic -/

/-- The bytes behind the first magic. -/
def behindMagic (bytes : List UInt8) : Option (List UInt8) :=
  (Search.find magicBytes bytes).map fun p => bytes.drop (p + 4)

theorem behindMagic_here (rest : List UInt8) : behindMagic (magicBytes ++ rest) = some rest := by
  have here : Search.First magicBytes (magicBytes ++ rest) 0 :=
    ⟨List.prefix_append _ _, fun i hi => absurd hi (Nat.not_lt_zero i)⟩
  rw [behindMagic, (Search.find_some magicBytes_ne).2 here]
  rfl

theorem behindMagic_skip {byteValue : UInt8} {rest : List UInt8}
    (other : ¬ magicBytes <+: byteValue :: rest) :
    behindMagic (byteValue :: rest) = behindMagic rest := by
  rw [behindMagic, Search.find, if_neg (mt List.isPrefixOf_iff_prefix.1 other), Option.map_map]
  rfl

/-- No proper prefix of the magic is followed by another start of it, so after
a mismatch only the last byte read can begin the magic. -/
theorem behindMagic_mismatch {matched : Nat} (h : matched < 4) {byteValue : UInt8}
    {rest : List UInt8} (mismatch : byteValue ≠ magicBytes.getD matched 0) :
    behindMagic (magicBytes.take matched ++ byteValue :: rest) = behindMagic (byteValue :: rest) := by
  have other (b : UInt8) (bytes : List UInt8) (ne : b ≠ 0x5A) : ¬ magicBytes <+: b :: bytes := by
    intro occurs
    exact ne (List.cons_prefix_cons.1 occurs).1.symm
  match matched, h with
  | 0, _ => rfl
  | 1, _ =>
    apply behindMagic_skip
    simpa [magicBytes, List.cons_prefix_cons] using fun same _ => mismatch same.symm
  | 2, _ =>
    refine Eq.trans (behindMagic_skip ?_) (behindMagic_skip (other 0xA5 _ (by decide)))
    simpa [magicBytes, List.cons_prefix_cons] using fun same _ => mismatch same.symm
  | 3, _ =>
    refine Eq.trans (behindMagic_skip ?_) (Eq.trans (behindMagic_skip (other 0xA5 _ (by decide)))
      (behindMagic_skip (other 0xA5 _ (by decide))))
    simpa [magicBytes, List.cons_prefix_cons] using fun same => mismatch same.symm

theorem findMagicBytes_matched {matched : Nat} (h : matched < 4) (bytes : List UInt8) :
    findMagicBytes matched bytes = behindMagic (magicBytes.take matched ++ bytes) := by
  induction bytes generalizing matched with
  | nil =>
    match matched, h with
    | 0, _ | 1, _ | 2, _ | 3, _ => rfl
  | cons byteValue rest ih =>
    unfold findMagicBytes
    by_cases same : byteValue = magicBytes.getD matched 0
    · rw [if_pos same, same]
      by_cases last : matched + 1 = 4
      · obtain rfl : matched = 3 := by omega
        exact (behindMagic_here rest).symm
      · rw [if_neg last, ih (by omega)]
        match matched, h, last with
        | 0, _, _ | 1, _, _ | 2, _, _ => rfl
        | 3, _, last => exact absurd rfl last
    · rw [if_neg same, behindMagic_mismatch h same]
      by_cases first : byteValue = magicBytes.getD 0 0
      · rw [if_pos first, ih (by decide), first]
        rfl
      · rw [if_neg first, ih (by decide)]
        refine (behindMagic_skip fun occurs => first ?_).symm
        exact (List.cons_prefix_cons.1 occurs).1.symm

/-- The search stops at the first magic. -/
theorem findMagicBytes_eq (bytes : List UInt8) :
    findMagicBytes 0 bytes = (Search.find magicBytes bytes).map fun p => bytes.drop (p + 4) :=
  findMagicBytes_matched (by decide) bytes

/-! ## Reading words -/

theorem readWords_eq (n : Nat) (bytes : List UInt8) : readWords n bytes =
    if 2 * n ≤ bytes.length then some (wordsOf (bytes.take (2 * n)), bytes.drop (2 * n))
    else none := by
  induction n generalizing bytes with
  | zero => rfl
  | succ n ih =>
    match bytes with
    | [] => rfl
    | [low] => 
      have short : ¬ 2 * (n + 1) ≤ [low].length := by
        simp only [List.length_singleton]
        omega
      rw [if_neg short]
      rfl
    | low :: high :: rest =>
      have double : 2 * (n + 1) = 2 * n + 2 := by omega
      rw [readWords, readWordFromBytes]
      simp only [Option.bind_eq_bind, Option.bind_some, ih rest, double, List.length_cons,
        List.take_succ_cons, List.drop_succ_cons, wordsOf]
      by_cases enough : 2 * n ≤ rest.length
      · rw [if_pos enough, if_pos (by omega)]
        rfl
      · rw [if_neg enough, if_neg (by omega)]
        rfl

theorem readWords_some {n : Nat} {bytes rest : List UInt8} {words : List UInt16} :
    readWords n bytes = some (words, rest) ↔ words.length = n ∧ bytes = bytesOf words ++ rest := by
  rw [readWords_eq]
  constructor
  · intro read
    split at read
    · rename_i enough
      cases read
      have length : (bytes.take (2 * n)).length = 2 * n := by
        rw [List.length_take]
        omega
      refine ⟨Words.length_wordsOf length, ?_⟩
      rw [Words.bytesOf_wordsOf length, List.take_append_drop]
    · cases read
  · rintro ⟨rfl, rfl⟩
    have length := Words.length_bytesOf words
    rw [if_pos (by rw [List.length_append]; omega), List.take_left' length, List.drop_left' length,
      Words.wordsOf_bytesOf]

theorem readWordFromBytes_some {bytes rest : List UInt8} {word : UInt16} :
    readWordFromBytes bytes = some (word, rest) ↔ bytes = bytesOf [word] ++ rest := by
  constructor
  · intro read
    match bytes, read with
    | low :: high :: _, read =>
      cases read
      show _ = lowByte _ :: highByte _ :: _
      rw [Words.lowByte_joinBytes, Words.highByte_joinBytes]
      rfl
  · rintro rfl
    show some (joinBytes _ _, rest) = _
    rw [Words.joinBytes_lowByte_highByte]

/-! ## One turn of the loop -/

/-- What is read behind an accepted header. -/
def receivePayload (frame : BootProtocolFrame) (bytes : List UInt8)
    (small : declaredWords bytes ≤ maxPayloadWords) : Option Received := do
  let (payload, rest) ← readWords (declaredWords bytes).toNat (bytes.drop 20)
  let (receivedPayloadCrc, rest) ← readWordFromBytes rest
  let result :=
    if crcWords payload ≠ receivedPayloadCrc then ReceiveResult.badPayloadCrc else .ok
  return ⟨result, storeFrame frame (headerWords bytes) payload small, rest⟩

section
variable {frame : BootProtocolFrame} {bytes : List UInt8} {turns p : Nat}

theorem receiveLoop_none (nowhere : ∀ i, ¬ magicBytes <+: bytes.drop i) :
    receiveLoop turns frame bytes = none := by
  cases turns with
  | zero => rfl
  | succ turns =>
    unfold receiveLoop
    rw [findMagicBytes_eq, (Search.find_none magicBytes_ne).2 nowhere]
    rfl

theorem headerWords_magic (magic : magicBytes <+: bytes) :
    magic0 :: magic1 :: wordsOf ((bytes.drop 4).take 16) = headerWords bytes := by
  obtain ⟨rest, rfl⟩ := magic
  rfl

/-- A turn is decided by the first magic and the 16 bytes behind it. -/
theorem receiveLoop_first (first : Search.First magicBytes bytes p) :
    receiveLoop (turns + 1) frame bytes =
      if bytes.length < p + 20 then none
      else if accepted : ValidHeader (bytes.drop p) ∧
          declaredWords (bytes.drop p) ≤ maxPayloadWords then
        receivePayload frame (bytes.drop p) accepted.2
      else receiveLoop turns frame (bytes.drop (p + 20)) := by
  have header := headerWords_magic first.here
  rw [List.drop_drop] at header
  rw [receiveLoop, findMagicBytes_eq, (Search.find_some magicBytes_ne).2 first]
  simp only [Option.map_some, Option.bind_eq_bind, Option.bind_some, readWords_eq,
    List.length_drop, List.drop_drop]
  by_cases short : bytes.length < p + 20
  · rw [if_pos short, if_neg (by omega)]
    rfl
  · rw [if_neg short, if_pos (by omega)]
    simp only [Option.bind_some, Nat.reduceMul, header]
    by_cases accepted : ValidHeader (bytes.drop p) ∧
        declaredWords (bytes.drop p) ≤ maxPayloadWords
    · have read : crcWords ((headerWords (bytes.drop p)).take 9) =
          (headerWords (bytes.drop p)).getD 9 0 ∧
          (headerWords (bytes.drop p)).getD 8 0 ≤ maxPayloadWords := ⟨accepted.1.crc, accepted.2⟩
      rw [dif_pos accepted, dif_pos read, receivePayload]
      simp only [readWords_eq, List.drop_drop, List.length_drop]
      rfl
    · rw [dif_neg accepted, dif_neg]
      rintro ⟨crc, small⟩
      have length : 20 ≤ (bytes.drop p).length := by
        rw [List.length_drop]
        omega
      exact accepted ⟨⟨length, first.here, crc⟩, small⟩

/-- Turns enough for every byte. -/
theorem receiveLoop_turns (h : bytes.length < turns) :
    receiveLoop turns frame bytes = receive frame bytes := by
  unfold receive
  generalize hm : bytes.length + 1 = more
  have h' : bytes.length < more := by omega
  clear hm
  induction turns generalizing bytes more with
  | zero => exact absurd h (Nat.not_lt_zero _)
  | succ turns ih =>
    cases more with
    | zero => exact absurd h' (Nat.not_lt_zero _)
    | succ more =>
      cases found : Search.find magicBytes bytes with
      | none =>
        have nowhere := (Search.find_none magicBytes_ne).1 found
        rw [receiveLoop_none nowhere, receiveLoop_none nowhere]
      | some p =>
        have first := (Search.find_some magicBytes_ne).1 found
        have shorter : bytes.length = 0 ∨ (bytes.drop (p + 20)).length < bytes.length := by
          rw [List.length_drop]
          omega
        rw [receiveLoop_first first, receiveLoop_first first]
        split
        · rfl
        rename_i long
        rw [ih (by omega) more (by omega)]

theorem receive_none (nowhere : ∀ i, ¬ magicBytes <+: bytes.drop i) : receive frame bytes = none :=
  receiveLoop_none nowhere

theorem receive_first (first : Search.First magicBytes bytes p) :
    receive frame bytes =
      if bytes.length < p + 20 then none
      else if accepted : ValidHeader (bytes.drop p) ∧
          declaredWords (bytes.drop p) ≤ maxPayloadWords then
        receivePayload frame (bytes.drop p) accepted.2
      else receive frame (bytes.drop (p + 20)) := by
  have length := first.lt_length magicBytes_ne
  have four : magicBytes.length = 4 := rfl
  rw [← @receiveLoop_turns frame (bytes.drop (p + 20)) bytes.length
    (by rw [List.length_drop]; omega)]
  exact receiveLoop_first first

/-- A valid header at the start is the first candidate. -/
theorem receive_valid (valid : ValidHeader bytes) (small : declaredWords bytes ≤ maxPayloadWords) :
    receive frame bytes = receivePayload frame bytes small := by
  have first : Search.First magicBytes bytes 0 :=
    ⟨valid.magic, fun i hi => absurd hi (Nat.not_lt_zero i)⟩
  have accepted : ValidHeader (bytes.drop 0) ∧ declaredWords (bytes.drop 0) ≤ maxPayloadWords :=
    ⟨valid, small⟩
  rw [receive_first first, if_neg (Nat.not_lt.2 valid.length), dif_pos accepted]
  rfl

/-- What stands before the first candidate does not matter if it is accepted. -/
theorem receive_found (first : Search.First magicBytes bytes p) (valid : ValidHeader (bytes.drop p))
    (small : declaredWords (bytes.drop p) ≤ maxPayloadWords) :
    receive frame bytes = receive frame (bytes.drop p) := by
  have long := valid.length
  rw [List.length_drop] at long
  have accepted : ValidHeader (bytes.drop p) ∧ declaredWords (bytes.drop p) ≤ maxPayloadWords :=
    ⟨valid, small⟩
  rw [receive_first first, if_neg (by omega), dif_pos accepted, receive_valid valid small]

end

/-! ## Whole frames -/

/-- The stored payload words are the ones that were read. -/
theorem contents_storeFrame {frame : BootProtocolFrame} {header payload : List UInt16}
    (small : header.getD 8 0 ≤ maxPayloadWords)
    (count : payload.length = (header.getD 8 0).toNat) :
    (storeFrame frame header payload small).contents =
      ⟨header.getD 2 0, header.getD 3 0, header.getD 4 0, header.getD 5 0, header.getD 6 0,
        header.getD 7 0, payload⟩ := by
  have bound : payload.length ≤ 256 := by
    rw [count]
    exact UInt16.le_iff_toNat_le.1 small
  have stored : (storeFrame frame header payload small).words 0 payload.length = payload := by
    rw [BootProtocolFrame.words, List.drop_zero, storeFrame, Vector.toList_ofFn]
    apply List.ext_getElem
    · rw [List.length_take, List.length_ofFn]
      omega
    · intro i _ hi
      rw [List.getElem_take, List.getElem_ofFn, List.getD_eq_getElem?_getD,
        List.getElem?_eq_getElem hi, Option.getD_some]
  rw [BootProtocolFrame.contents]
  show (⟨_, _, _, _, _, _, (storeFrame frame header payload small).words 0
    (header.getD 8 0).toNat⟩ : WireFrame) = _
  rw [← count, stored]
  rfl

/-- A frame at the start of the bytes is received with its contents. -/
theorem receive_bytes (frame : BootProtocolFrame) (w : WireFrame) (small : w.payload.length ≤ 256)
    (rest : List UInt8) :
    ∃ received, receive frame (w.bytes ++ rest) = some ⟨.ok, received, rest⟩ ∧
      received.contents = w := by
  have valid := validHeader_bytes w rest
  have declared := declaredWords_bytes w rest
  have count : (UInt16.ofNat w.payload.length).toNat = w.payload.length :=
    UInt16.toNat_ofNat_of_lt' (by rw [UInt16.size]; omega)
  have fits : declaredWords (w.bytes ++ rest) ≤ maxPayloadWords := by
    rw [declared, UInt16.le_iff_toNat_le, count]
    exact small
  have behind : (w.bytes ++ rest).drop 20 =
      bytesOf w.payload ++ (bytesOf [crcWords w.payload] ++ rest) := by
    rw [w.bytes_eq, List.append_assoc, List.drop_left' w.length_header_bytes, List.append_assoc]
  have words := headerWords_bytes w rest
  have header : (headerWords (w.bytes ++ rest)).getD 8 0 = UInt16.ofNat w.payload.length := declared
  rw [receive_valid valid fits]
  refine ⟨storeFrame frame (headerWords (w.bytes ++ rest)) w.payload fits, ?_, ?_⟩
  · rw [receivePayload, behind, declared, count, readWords_some.2 ⟨rfl, rfl⟩]
    simp [readWordFromBytes_some.2 rfl]
  · rw [contents_storeFrame fits (by rw [header, count])]
    rw [words]
    rfl

section
variable {frame : BootProtocolFrame} {bytes : List UInt8} {r : Received}

theorem receivePayload_ok (valid : ValidHeader bytes) {small : declaredWords bytes ≤ maxPayloadWords}
    (received : receivePayload frame bytes small = some r) (ok : r.result = .ok) :
    bytes = r.frame.contents.bytes ++ r.rest := by
  rw [receivePayload] at received
  simp only [Option.bind_eq_bind, Option.bind_eq_some_iff] at received
  obtain ⟨⟨payload, behind⟩, readPayload, ⟨payloadCrc, rest⟩, readCrc, same⟩ := received
  obtain ⟨count, split⟩ := readWords_some.1 readPayload
  have last := readWordFromBytes_some.1 readCrc
  cases same
  have crc : crcWords payload = payloadCrc := by
    apply Classical.byContradiction
    intro bad
    rw [if_pos bad] at ok
    cases ok
  obtain ⟨a, b, c, d, e, f, g, header⟩ := valid.words
  let w : WireFrame := ⟨a, b, c, d, e, f, payload⟩
  have declared : g = UInt16.ofNat payload.length := by
    rw [count, declaredWords, header]
    exact UInt16.ofNat_toNat.symm
  have front : bytes.take 20 = bytesOf (w.header ++ [crcWords w.header]) := by
    have length : (bytes.take 20).length = 2 * 10 := by
      have := valid.length
      rw [List.length_take]
      omega
    rw [← Words.bytesOf_wordsOf length, ← headerWords, header, declared]
    rfl
  have contents : (storeFrame frame (headerWords bytes) payload small).contents = w := by
    rw [contents_storeFrame small count, header]
    rfl
  have last : behind = bytesOf [crcWords w.payload] ++ rest := crc ▸ last
  show bytes = (storeFrame frame (headerWords bytes) payload small).contents.bytes ++ rest
  rw [contents, w.bytes_eq, ← front, List.append_assoc, List.append_assoc, ← last, ← split,
    List.take_append_drop]

/-- A received frame is somewhere in the bytes, and what is left follows it. -/
theorem receive_ok (received : receive frame bytes = some r) (ok : r.result = .ok) :
    ∃ skipped, bytes = skipped ++ (r.frame.contents.bytes ++ r.rest) := by
  generalize size : bytes.length = n
  induction n using Nat.strongRecOn generalizing bytes with
  | ind n ih =>
    cases found : Search.find magicBytes bytes with
    | none =>
      rw [receive_none ((Search.find_none magicBytes_ne).1 found)] at received
      cases received
    | some p =>
      have first := (Search.find_some magicBytes_ne).1 found
      have length := first.lt_length magicBytes_ne
      have four : magicBytes.length = 4 := rfl
      rw [receive_first first] at received
      split at received
      · cases received
      split at received
      · rename_i accepted
        refine ⟨bytes.take p, ?_⟩
        rw [← receivePayload_ok accepted.1 received ok, List.take_append_drop]
      · obtain ⟨skipped, split⟩ := ih (bytes.drop (p + 20)).length
          (by rw [List.length_drop]; omega) received rfl
        refine ⟨bytes.take (p + 20) ++ skipped, ?_⟩
        rw [List.append_assoc, ← split, List.take_append_drop]

/-- A call reads from the front only, and at least a header. -/
theorem receive_behind (received : receive frame bytes = some r) :
    20 ≤ bytes.length ∧ r.rest <:+ bytes.drop 20 := by
  generalize size : bytes.length = n
  induction n using Nat.strongRecOn generalizing bytes with
  | ind n ih =>
    cases found : Search.find magicBytes bytes with
    | none =>
      rw [receive_none ((Search.find_none magicBytes_ne).1 found)] at received
      cases received
    | some p =>
      have first := (Search.find_some magicBytes_ne).1 found
      have length := first.lt_length magicBytes_ne
      have four : magicBytes.length = 4 := rfl
      rw [receive_first first] at received
      split at received
      · cases received
      rename_i long
      have later : bytes.drop (p + 20) <:+ bytes.drop 20 :=
        List.drop_suffix_drop_left _ (Nat.le_add_left 20 p)
      refine ⟨by omega, ?_⟩
      split at received
      · rw [receivePayload] at received
        simp only [Option.bind_eq_bind, Option.bind_eq_some_iff] at received
        obtain ⟨⟨payload, behind⟩, readPayload, ⟨payloadCrc, rest⟩, readCrc, same⟩ := received
        have split := (readWords_some.1 readPayload).2
        have last := readWordFromBytes_some.1 readCrc
        cases same
        rw [show behind = _ from last, List.drop_drop] at split
        have inner : rest <:+ bytes.drop (p + 20) := by
          rw [split, ← List.append_assoc]
          exact List.suffix_append _ _
        exact inner.trans later
      · have next := ih (bytes.drop (p + 20)).length (by rw [List.length_drop]; omega) received rfl
        exact next.2.trans ((List.drop_suffix _ _).trans later)

theorem receive_suffix (received : receive frame bytes = some r) : r.rest <:+ bytes :=
  (receive_behind received).2.trans (List.drop_suffix _ _)

theorem receive_lt (received : receive frame bytes = some r) : r.rest.length < bytes.length := by
  obtain ⟨long, behind⟩ := receive_behind received
  have := behind.length_le
  rw [List.length_drop] at this
  omega

end

end BootProtocol

end BootUpgrade
