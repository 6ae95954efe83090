import BootUpgrade.Lib.LittleEndian
import BootUpgrade.Host.BootProtocolClient

/-!
# The SCI8 boot table of `firmware/hex2000.py`

The converter prints a boot table as hexadecimal tokens: a key, eight reserved
words, the entry point and blocks of a size, an address and data, up to a block
of size zero. The parser accepts these tables and nothing else.
-/

namespace BootUpgrade

namespace Hex2000

open HostProtocol

/-- What `parse_sci8_text` raises: `Sci8ParseError` or the error of a constructor. -/
inductive Sci8Error where
  | sci8ParseError (message : String)
  | constructor (error : HostError)
  deriving DecidableEq, Repr

/-- A token that `_TOKEN_RE` finds, of two or four hexadecimal digits. -/
inductive Sci8Token where
  | byte (value : UInt8)
  | word (value : UInt16)
  deriving DecidableEq, Repr

namespace Sci8Token

/-- `len(token)`. -/
def width : Sci8Token → Nat
  | byte _ => 2
  | word _ => 4

/-- `int(token, 16)`. -/
def value : Sci8Token → Nat
  | byte value => value.toNat
  | word value => value.toNat

end Sci8Token

/-- `Sci8BootTable`. -/
structure Sci8BootTable where
  key : UInt16
  reservedWords : List UInt16
  entryPoint : Nat
  blocks : List FirmwareBlock

def sci8Key : UInt16 := 0x08AA
def sci8ReservedWords : Nat := 8

/-! ## The parser -/

/-- `_parse_ascii_words`, from the tokens on. -/
def parseAsciiWords (tokens : List Sci8Token) : Except Sci8Error (List UInt16) :=
  if tokens = [] then .error (.sci8ParseError "SCI8 output contains no hexadecimal data")
  else if tokens.all (·.width = 4) then .ok (tokens.map fun token => UInt16.ofNat token.value)
  else if ¬ tokens.all (·.width = 2) then
    .error (.sci8ParseError "SCI8 output mixes byte and word tokens")
  else if tokens.length % 2 ≠ 0 then
    .error (.sci8ParseError "SCI8 byte stream has an odd byte count")
  else .ok (Words.wordsOf (tokens.map fun token => UInt8.ofNat token.value))

/-- `FirmwareBlock(address, words)` with the address high word first. -/
def createBlock (high low : UInt16) (words : List UInt16) : Except Sci8Error FirmwareBlock :=
  (FirmwareBlock.create (joinU32 low high).toNat words).mapError .constructor

/-- The `while` loop of `parse_sci8_text` on the words from `index` on: the blocks, and the
words behind the terminator. -/
def readBlocks : List UInt16 → Except Sci8Error (List FirmwareBlock × List UInt16)
  | [] => .error (.sci8ParseError "SCI8 boot table has no zero-length terminator")
  | size :: rest =>
    if size = 0 then .ok ([], rest)
    else if rest.length < 2 + size.toNat then
      .error (.sci8ParseError "SCI8 block extends beyond the available data")
    else do
      let block ← createBlock (rest.getD 0 0) (rest.getD 1 0) ((rest.drop 2).take size.toNat)
      let (blocks, trailing) ← readBlocks ((rest.drop 2).drop size.toNat)
      return (block :: blocks, trailing)
termination_by words => words.length
decreasing_by
  rw [List.length_drop, List.length_drop, List.length_cons]
  omega

/-- `parse_sci8_text`, from the tokens on. -/
def parseSci8Text (tokens : List Sci8Token) : Except Sci8Error Sci8BootTable :=
  match parseAsciiWords tokens with
  | .error error => .error error
  | .ok words =>
    let fixedWords := 1 + sci8ReservedWords + 2
    if words.length < fixedWords + 1 then
      .error (.sci8ParseError "SCI8 boot table is truncated")
    else if words.getD 0 0 ≠ sci8Key then
      .error (.sci8ParseError ("unexpected SCI8 key 0x" ++ BootProtocolClient.hex (words.getD 0 0)))
    else
      let entryPoint := (joinU32 (words.getD 10 0) (words.getD 9 0)).toNat
      match readBlocks (words.drop fixedWords) with
      | .error error => .error error
      | .ok (blocks, trailing) =>
        if trailing ≠ [] then
          .error (.sci8ParseError "SCI8 boot table contains trailing data after terminator")
        else if blocks = [] then
          .error (.sci8ParseError "SCI8 boot table contains no data blocks")
        else .ok ⟨words.getD 0 0, (words.drop 1).take sci8ReservedWords, entryPoint, blocks⟩

/-- `build_firmware_image`, from the tokens on. -/
def buildFirmwareImage (tokens : List Sci8Token) : Except Sci8Error FirmwareImage :=
  match parseSci8Text tokens with
  | .error error => .error error
  | .ok table =>
    match FirmwareImage.create table.entryPoint table.blocks with
    | .error error => .error (.constructor error)
    | .ok image => .ok image

/-! ## The format -/

/-- Size, address high word first, and data. -/
def blockWords (block : FirmwareBlock) : List UInt16 :=
  UInt16.ofNat block.words.length :: Words.highWord (UInt32.ofNat block.address) ::
    Words.lowWord (UInt32.ofNat block.address) :: block.words

namespace Sci8BootTable

variable (table : Sci8BootTable)

/-- The words of a table, with the block of size zero behind the others. -/
def words : List UInt16 :=
  table.key :: (table.reservedWords ++ Words.highWord (UInt32.ofNat table.entryPoint) ::
    Words.lowWord (UInt32.ofNat table.entryPoint) :: (table.blocks.flatMap blockWords ++ [0]))

/-- The table as the bytes that the converter prints. -/
def bytes : List UInt8 := Words.bytesOf table.words

/-- The tables of the format. -/
structure WellFormed : Prop where
  key : table.key = sci8Key
  reserved : table.reservedWords.length = 8
  entryPoint : table.entryPoint ≤ 0xFFFFFFFF
  some : table.blocks ≠ []
  sizes : ∀ block ∈ table.blocks, block.words.length ≤ 0xFFFF

end Sci8BootTable

theorem createBlock_ok {high low : UInt16} {words : List UInt16} {block : FirmwareBlock}
    (made : createBlock high low words = .ok block) :
    words ≠ [] ∧ block.words = words ∧ Words.highWord (UInt32.ofNat block.address) = high ∧
      Words.lowWord (UInt32.ofNat block.address) = low := by
  unfold createBlock FirmwareBlock.create at made
  have fits : (joinU32 low high).toNat ≤ 0xFFFFFFFF := by
    have := (joinU32 low high).toNat_lt
    omega
  rw [dif_pos fits] at made
  split at made
  · cases made
  · rename_i nonempty
    cases made
    refine ⟨nonempty, rfl, ?_, ?_⟩
    · rw [UInt32.ofNat_toNat, Words.highWord_joinU32]
    · rw [UInt32.ofNat_toNat, Words.lowWord_joinU32]

/-- Every address that is read back is the one that was written. -/
theorem createBlock_block (block : FirmwareBlock) :
    createBlock (Words.highWord (UInt32.ofNat block.address))
      (Words.lowWord (UInt32.ofNat block.address)) block.words = .ok block := by
  have fits := block.address_le
  have address : (UInt32.ofNat block.address).toNat = block.address :=
    UInt32.toNat_ofNat_of_lt' (by rw [UInt32.size]; omega)
  unfold createBlock FirmwareBlock.create
  rw [Words.joinU32_lowWord_highWord, address, dif_pos fits, dif_neg block.words_ne]
  rfl

theorem readBlocks_end (trailing : List UInt16) : readBlocks (0 :: trailing) = .ok ([], trailing) := by
  rw [readBlocks, if_pos rfl]

/-- One round of the loop on a block whose address is there. -/
theorem readBlocks_block {size high low : UInt16} {data : List UInt16} (nonzero : size ≠ 0) :
    readBlocks (size :: high :: low :: data) =
      if data.length < size.toNat then
        .error (.sci8ParseError "SCI8 block extends beyond the available data")
      else
        (createBlock high low (data.take size.toNat)).bind fun block =>
          (readBlocks (data.drop size.toNat)).bind fun result => .ok (block :: result.1, result.2) := by
  have fits : (high :: low :: data).length < 2 + size.toNat ↔ data.length < size.toNat := by
    simp only [List.length_cons]
    omega
  rw [readBlocks, if_neg nonzero]
  simp only [fits]
  rfl

/-- A block that is cut off in its address. -/
theorem readBlocks_short {size : UInt16} {rest : List UInt16} (nonzero : size ≠ 0)
    (short : rest.length < 2) : readBlocks (size :: rest) =
      .error (.sci8ParseError "SCI8 block extends beyond the available data") := by
  rw [readBlocks, if_neg nonzero, if_pos (by omega)]

theorem two_words (rest : List UInt16) (long : 2 ≤ rest.length) :
    ∃ high low data, rest = high :: low :: data := by
  cases rest with
  | nil => simp at long
  | cons high rest =>
    cases rest with
    | nil => simp at long
    | cons low data => exact ⟨high, low, data, rfl⟩

/-- What the loop reads is the words of its blocks up to the terminator. -/
theorem readBlocks_ok {words trailing : List UInt16} {blocks : List FirmwareBlock}
    (read : readBlocks words = .ok (blocks, trailing)) :
    (∀ block ∈ blocks, block.words.length ≤ 0xFFFF) ∧
      words = blocks.flatMap blockWords ++ 0 :: trailing := by
  generalize hn : words.length = n
  induction n using Nat.strongRecOn generalizing words blocks with
  | ind n ih =>
    cases words with
    | nil =>
      rw [readBlocks] at read
      cases read
    | cons size rest =>
      by_cases zero : size = 0
      · subst zero
        rw [readBlocks_end] at read
        cases read
        constructor
        · intro block mem
          cases mem
        · rfl
      · by_cases short : rest.length < 2
        · rw [readBlocks_short zero short] at read
          cases read
        · obtain ⟨high, low, data, rfl⟩ := two_words _ (Nat.not_lt.1 short)
          rw [readBlocks_block zero] at read
          split at read
          · cases read
          rename_i fits
          cases made : createBlock high low (data.take size.toNat) with
          | error error =>
            rw [made] at read
            cases read
          | ok block =>
            rw [made] at read
            cases others : readBlocks (data.drop size.toNat) with
            | error error =>
              simp only [Except.bind, others] at read
              cases read
            | ok result =>
              simp only [Except.bind, others] at read
              cases read
              obtain ⟨-, words, high', low'⟩ := createBlock_ok made
              have shorter : (data.drop size.toNat).length < n := by
                rw [← hn]
                simp only [List.length_drop, List.length_cons]
                omega
              obtain ⟨sizes, rest⟩ := ih _ shorter others rfl
              have length : block.words.length = size.toNat := by
                rw [words, List.length_take]
                omega
              constructor
              · rw [List.forall_mem_cons]
                refine ⟨?_, sizes⟩
                have := size.toNat_lt
                omega
              · rw [List.flatMap_cons, blockWords, high', low', length, UInt16.ofNat_toNat, words]
                simp only [List.cons_append, List.append_assoc, ← rest, List.take_append_drop]

/-- The loop reads the words of blocks back. -/
theorem readBlocks_flatMap {blocks : List FirmwareBlock} (trailing : List UInt16)
    (sizes : ∀ block ∈ blocks, block.words.length ≤ 0xFFFF) :
    readBlocks (blocks.flatMap blockWords ++ 0 :: trailing) = .ok (blocks, trailing) := by
  induction blocks with
  | nil => exact readBlocks_end trailing
  | cons block rest ih =>
    obtain ⟨first, sizes⟩ := List.forall_mem_cons.1 sizes
    have some := List.length_pos_iff.2 block.words_ne
    have size : (UInt16.ofNat block.words.length).toNat = block.words.length :=
      UInt16.toNat_ofNat_of_lt' (by rw [UInt16.size]; omega)
    have nonzero : UInt16.ofNat block.words.length ≠ 0 := by
      intro zero
      rw [zero, UInt16.toNat_zero] at size
      omega
    rw [List.flatMap_cons, blockWords]
    simp only [List.cons_append, List.append_assoc]
    rw [readBlocks_block nonzero, size, if_neg (by rw [List.length_append]; omega),
      List.take_left, List.drop_left, createBlock_block]
    simp only [Except.bind, ih sizes]

/-! ## Byte tokens -/

section
variable {bytes : List UInt8}

theorem parseAsciiWords_bytes : parseAsciiWords (bytes.map .byte) =
    if bytes = [] then .error (.sci8ParseError "SCI8 output contains no hexadecimal data")
    else if bytes.length % 2 ≠ 0 then
      .error (.sci8ParseError "SCI8 byte stream has an odd byte count")
    else .ok (Words.wordsOf bytes) := by
  have values : ((bytes.map Sci8Token.byte).map fun token => UInt8.ofNat token.value) = bytes := by
    rw [List.map_map]
    apply List.map_id''
    intro byte
    exact UInt8.ofNat_toNat
  cases bytes with
  | nil => rfl
  | cons byte rest =>
    have narrow : ((byte :: rest).map Sci8Token.byte).all (·.width = 2) := by
      simp [Sci8Token.width]
    have wide : ¬ ((byte :: rest).map Sci8Token.byte).all (·.width = 4) := by
      simp [Sci8Token.width]
    have some : (byte :: rest).map Sci8Token.byte ≠ [] := List.cons_ne_nil _ _
    unfold parseAsciiWords
    rw [values, List.length_map, if_neg some, if_neg wide, if_neg (not_not_intro narrow),
      if_neg (List.cons_ne_nil _ _)]

theorem parseAsciiWords_bytes_ok {words : List UInt16} :
    parseAsciiWords (bytes.map .byte) = .ok words ↔ words ≠ [] ∧ bytes = Words.bytesOf words := by
  rw [parseAsciiWords_bytes]
  constructor
  · intro parsed
    split at parsed
    · cases parsed
    rename_i some
    split at parsed
    · cases parsed
    rename_i even
    cases parsed
    have halves : bytes.length = 2 * (bytes.length / 2) := by omega
    have back := Words.bytesOf_wordsOf halves
    refine ⟨?_, back.symm⟩
    intro none
    rw [none] at back
    exact some back.symm
  · rintro ⟨some, rfl⟩
    have nonempty : Words.bytesOf words ≠ [] := by
      cases words with
      | nil => exact absurd rfl some
      | cons word rest => exact List.cons_ne_nil _ _
    rw [if_neg nonempty, Words.length_bytesOf, if_neg (by omega), Words.wordsOf_bytesOf]

end

/-! ## The table -/

theorem header_words {words : List UInt16} (long : 11 ≤ words.length) :
    ∃ key reserved high low rest, reserved.length = 8 ∧
      words = key :: (reserved ++ high :: low :: rest) := by
  cases words with
  | nil => simp at long
  | cons key tail =>
    rw [List.length_cons] at long
    obtain ⟨high, low, rest, split⟩ := two_words (tail.drop 8) (by
      rw [List.length_drop]
      omega)
    refine ⟨key, tail.take 8, high, low, rest, ?_, ?_⟩
    · rw [List.length_take]
      omega
    · rw [← split, List.take_append_drop]

/-- The parser on the words of a header and what follows it. -/
theorem parseSci8Text_header {tokens : List Sci8Token} {key high low : UInt16}
    {reserved rest : List UInt16} (eight : reserved.length = 8)
    (parsed : parseAsciiWords tokens = .ok (key :: (reserved ++ high :: low :: rest))) :
    parseSci8Text tokens =
      if rest = [] then .error (.sci8ParseError "SCI8 boot table is truncated")
      else if key ≠ sci8Key then
        .error (.sci8ParseError ("unexpected SCI8 key 0x" ++ BootProtocolClient.hex key))
      else
        match readBlocks rest with
        | .error error => .error error
        | .ok (blocks, trailing) =>
          if trailing ≠ [] then
            .error (.sci8ParseError "SCI8 boot table contains trailing data after terminator")
          else if blocks = [] then
            .error (.sci8ParseError "SCI8 boot table contains no data blocks")
          else .ok ⟨key, reserved, (joinU32 low high).toNat, blocks⟩ := by
  have short : (key :: (reserved ++ high :: low :: rest)).length < 1 + sci8ReservedWords + 2 + 1 ↔
      rest = [] := by
    rw [← List.length_eq_zero_iff]
    simp only [List.length_cons, List.length_append, sci8ReservedWords]
    omega
  have ninth : (key :: (reserved ++ high :: low :: rest)).getD 9 0 = high := by
    rw [List.getD_cons_succ, List.getD_eq_getElem?_getD, List.getElem?_append_right (by omega), eight]
    rfl
  have tenth : (key :: (reserved ++ high :: low :: rest)).getD 10 0 = low := by
    rw [List.getD_cons_succ, List.getD_eq_getElem?_getD, List.getElem?_append_right (by omega), eight]
    rfl
  have behind : (key :: (reserved ++ high :: low :: rest)).drop (1 + sci8ReservedWords + 2) = rest := by
    show (reserved ++ high :: low :: rest).drop 10 = rest
    rw [List.drop_append, eight, List.drop_of_length_le (by omega)]
    rfl
  have inside : ((key :: (reserved ++ high :: low :: rest)).drop 1).take sci8ReservedWords =
      reserved := by
    show (reserved ++ high :: low :: rest).take 8 = reserved
    rw [← eight, List.take_left]
  unfold parseSci8Text
  rw [parsed]
  dsimp only
  simp only [short]
  rw [ninth, tenth, behind, inside]
  rfl

/-- The parser accepts the tables of the format, and returns the table. -/
theorem parseSci8Text_ok {tokens : List Sci8Token} {words : List UInt16} {table : Sci8BootTable}
    (parsed : parseAsciiWords tokens = .ok words) :
    parseSci8Text tokens = .ok table ↔ table.WellFormed ∧ words = table.words := by
  constructor
  · intro accepted
    by_cases long : 11 ≤ words.length
    · obtain ⟨key, reserved, high, low, rest, eight, rfl⟩ := header_words long
      rw [parseSci8Text_header eight parsed] at accepted
      split at accepted
      · cases accepted
      split at accepted
      · cases accepted
      rename_i right
      split at accepted
      · cases accepted
      rename_i blocks trailing read
      split at accepted
      · cases accepted
      rename_i none
      split at accepted
      · cases accepted
      rename_i some
      cases accepted
      obtain ⟨sizes, rest⟩ := readBlocks_ok read
      have fits : (joinU32 low high).toNat ≤ 0xFFFFFFFF := by
        have := (joinU32 low high).toNat_lt
        omega
      refine ⟨⟨Decidable.not_not.1 right, eight, fits, some, sizes⟩, ?_⟩
      rw [Sci8BootTable.words, rest, Decidable.not_not.1 none]
      dsimp only
      rw [UInt32.ofNat_toNat, Words.highWord_joinU32, Words.lowWord_joinU32]
    · unfold parseSci8Text at accepted
      rw [parsed] at accepted
      dsimp only at accepted
      rw [if_pos (by rw [sci8ReservedWords]; omega)] at accepted
      cases accepted
  · rintro ⟨wellFormed, rfl⟩
    have entry : (joinU32 (Words.lowWord (UInt32.ofNat table.entryPoint))
        (Words.highWord (UInt32.ofNat table.entryPoint))).toNat = table.entryPoint := by
      have fits := wellFormed.entryPoint
      rw [Words.joinU32_lowWord_highWord]
      exact UInt32.toNat_ofNat_of_lt' (by rw [UInt32.size]; omega)
    rw [parseSci8Text_header wellFormed.reserved parsed, if_neg (by simp),
      if_neg (not_not_intro wellFormed.key), readBlocks_flatMap [] wellFormed.sizes]
    dsimp only
    rw [if_neg (not_not_intro rfl), if_neg wellFormed.some, entry]

/-- The parser accepts exactly the byte tokens of well-formed tables and returns the table;
what it returns is written and read back as the same table and the same image. -/
theorem parse_sci8_exact (bytes : List UInt8) (table : Sci8BootTable) :
    (parseSci8Text (bytes.map .byte) = .ok table ↔ table.WellFormed ∧ bytes = table.bytes) ∧
    (parseSci8Text (bytes.map .byte) = .ok table →
      parseSci8Text (table.bytes.map .byte) = .ok table ∧
      buildFirmwareImage (table.bytes.map .byte) = buildFirmwareImage (bytes.map .byte)) := by
  have exact : parseSci8Text (bytes.map .byte) = .ok table ↔
      table.WellFormed ∧ bytes = table.bytes := by
    constructor
    · intro accepted
      cases parsed : parseAsciiWords (bytes.map .byte) with
      | error error =>
        unfold parseSci8Text at accepted
        rw [parsed] at accepted
        cases accepted
      | ok words =>
        obtain ⟨wellFormed, rfl⟩ := (parseSci8Text_ok parsed).1 accepted
        exact ⟨wellFormed, (parseAsciiWords_bytes_ok.1 parsed).2⟩
    · rintro ⟨wellFormed, rfl⟩
      have parsed : parseAsciiWords (table.bytes.map .byte) = .ok table.words :=
        parseAsciiWords_bytes_ok.2 ⟨List.cons_ne_nil _ _, rfl⟩
      exact (parseSci8Text_ok parsed).2 ⟨wellFormed, rfl⟩
  refine ⟨exact, ?_⟩
  intro accepted
  obtain ⟨-, same⟩ := exact.1 accepted
  rw [same] at accepted
  rw [same]
  exact ⟨accepted, rfl⟩

/-- A table of one block of one word. -/
theorem smallAddress_le : 0x082400 ≤ 0xFFFFFFFF := by decide

theorem smallWord_ne : [(0x1234 : UInt16)] ≠ [] := List.cons_ne_nil _ _

def smallTable : Sci8BootTable where
  key := sci8Key
  reservedWords := List.replicate 8 0
  entryPoint := 0x082400
  blocks := [⟨0x082400, [0x1234], smallAddress_le, smallWord_ne⟩]

theorem parse_sci8_exact_small : parseSci8Text (smallTable.bytes.map .byte) = .ok smallTable := by
  apply (parse_sci8_exact smallTable.bytes smallTable).1.2
  refine ⟨⟨rfl, rfl, by decide, List.cons_ne_nil _ _, ?_⟩, rfl⟩
  intro block mem
  obtain rfl := List.mem_singleton.1 mem
  decide

end Hex2000

end BootUpgrade
