import BootUpgrade.F28377D.Sectors

/-!
# The port of `boot_flash_port_f28377d_cpu1.c`

The TI Flash API is a parameter: its functions over a device `ε`. `Fapi.logged`
also records the commands that change Flash words.
-/

namespace BootUpgrade

/-- `Fapi_StatusType` as the port casts it. -/
abbrev FapiStatus := Int32

/-- The functions of the Flash API the port calls. -/
structure Fapi (ε : Type) where
  readWord : ε → UInt32 → UInt16
  initializeAPI : ε → FapiStatus × ε
  setActiveFlashBank : ε → FapiStatus × ε
  /-- `Fapi_issueAsyncCommandWithAddress(Fapi_EraseSector, address)` -/
  eraseSector : UInt32 → ε → FapiStatus × ε
  /-- `Fapi_issueProgrammingCommand` of eight words with generated ECC -/
  issueProgrammingCommand : UInt32 → List UInt16 → ε → FapiStatus × ε
  /-- `while (Fapi_checkFsmForReady() == Fapi_Status_FsmBusy);` -/
  waitForReady : ε → ε
  flushPipeline : ε → ε
  getFsmStatus : ε → UInt32
  /-- The second value is `au32StatusWord[0]`. -/
  doBlankCheck : UInt32 → UInt32 → ε → FapiStatus × UInt32 × ε
  doVerify : UInt32 → UInt16 → List UInt16 → ε → FapiStatus × UInt32 × ε

namespace Fapi

def statusSuccess : FapiStatus := 0

/-- A command that changes Flash words. -/
inductive Command where
  | eraseSector (address : UInt32)
  | program (address : UInt32) (data : List UInt16)
  deriving DecidableEq, Repr

/-- A device and the commands issued to it so far, oldest first. -/
structure Issued (ε : Type) where
  device : ε
  commands : List Command

variable {ε : Type}

def logged (fapi : Fapi ε) : Fapi (Issued ε) where
  readWord w := fapi.readWord w.device
  initializeAPI w := ((fapi.initializeAPI w.device).1, { w with device := (fapi.initializeAPI w.device).2 })
  setActiveFlashBank w :=
    ((fapi.setActiveFlashBank w.device).1, { w with device := (fapi.setActiveFlashBank w.device).2 })
  eraseSector address w :=
    let r := fapi.eraseSector address w.device
    (r.1, ⟨r.2, w.commands ++ [.eraseSector address]⟩)
  issueProgrammingCommand address data w :=
    let r := fapi.issueProgrammingCommand address data w.device
    (r.1, ⟨r.2, w.commands ++ [.program address data]⟩)
  waitForReady w := { w with device := fapi.waitForReady w.device }
  flushPipeline w := { w with device := fapi.flushPipeline w.device }
  getFsmStatus w := fapi.getFsmStatus w.device
  doBlankCheck address length w :=
    let r := fapi.doBlankCheck address length w.device
    (r.1, r.2.1, { w with device := r.2.2 })
  doVerify address length data w :=
    let r := fapi.doVerify address length data w.device
    (r.1, r.2.1, { w with device := r.2.2 })

end Fapi

namespace F28377D

variable {ε : Type} (fapi : Fapi ε)

/-- The fields a failing port function writes into the error info. -/
def setInfo (info : BootFlashErrorInfo) (operation : BootFlashOperation)
    (address lengthWords : UInt32) (apiStatus : Int32) (fsmStatus : UInt32) : BootFlashErrorInfo :=
  { info with operation, address, lengthWords, apiStatus, fsmStatus }

/-- `BootFlash_Init`. -/
def init (info : BootFlashErrorInfo) (w : ε) : PortReturn ε :=
  let r := fapi.initializeAPI w
  if r.1 ≠ Fapi.statusSuccess then
    ⟨BootFlashResult.initFailed, setInfo info .none 0 0 r.1 (fapi.getFsmStatus r.2), r.2⟩
  else
    let r := fapi.setActiveFlashBank r.2
    if r.1 ≠ Fapi.statusSuccess then
      ⟨BootFlashResult.initFailed, setInfo info .none 0 0 r.1 (fapi.getFsmStatus r.2), r.2⟩
    else ⟨BootFlashResult.ok, info, r.2⟩

/-- The range checks of `BootFlash_CheckAddress`. -/
def addressAllowed (address wordCount : UInt32) (operation : BootFlashOperation) : Bool :=
  match findSectorEndExclusive address with
  | none => false
  | some allowEndExclusive =>
    let acquireEndExclusive := address + wordCount
    if acquireEndExclusive > allowEndExclusive then false
    else if address < appStart ∨ acquireEndExclusive > appEndExclusive then false
    else if operation = .program ∧ (address % 8 ≠ 0 ∨ wordCount % 8 ≠ 0) then false
    else true

/-- `BootFlash_CheckAddress`. -/
def checkAddress (address wordCount : UInt32) (operation : BootFlashOperation)
    (info : BootFlashErrorInfo) : BootFlashResult × BootFlashErrorInfo :=
  if addressAllowed address wordCount operation then (BootFlashResult.ok, info)
  else (BootFlashResult.badAddress, setInfo info operation address wordCount (-1) 0xFFFFFFFF)

/-- The body of the loop of `BootFlash_EraseBySectorMask` for a selected bit. -/
def eraseSector (i : UInt32) (info : BootFlashErrorInfo) (w : ε) : PortReturn ε :=
  match findSector (i + 1) with
  | none => ⟨BootFlashResult.badAddress, setInfo info .erase 0 ((0 : UInt32) <<< 1) (-1) 0xFFFFFFFF, w⟩
  | some (startAddress, size32Words) =>
    let r := fapi.eraseSector startAddress w
    if r.1 ≠ Fapi.statusSuccess then
      ⟨BootFlashResult.failed,
        setInfo info .erase startAddress (size32Words <<< 1) r.1 (fapi.getFsmStatus r.2), r.2⟩
    else
      let w := fapi.flushPipeline (fapi.waitForReady r.2)
      let flashStatus := fapi.getFsmStatus w
      if flashStatus ≠ 0 then
        ⟨BootFlashResult.failed,
          setInfo info .erase startAddress (size32Words <<< 1) Fapi.statusSuccess flashStatus, w⟩
      else
        let r := fapi.doBlankCheck startAddress size32Words w
        if r.1 ≠ Fapi.statusSuccess then
          ⟨BootFlashResult.failed,
            setInfo info .erase r.2.1 size32Words r.1 (fapi.getFsmStatus r.2.2), r.2.2⟩
        else ⟨BootFlashResult.ok, info, r.2.2⟩

/-- The loop of `BootFlash_EraseBySectorMask` over the remaining bits. -/
def eraseLoop (sectorMask : UInt32) : List Nat → BootFlashErrorInfo → ε → PortReturn ε
  | [], info, w => ⟨BootFlashResult.ok, info, w⟩
  | i :: is, info, w =>
    if sectorMask &&& (1 <<< UInt32.ofNat i) ≠ 0 then
      let r := eraseSector fapi (UInt32.ofNat i) info w
      if r.result ≠ BootFlashResult.ok then r else eraseLoop sectorMask is r.info r.world
    else eraseLoop sectorMask is info w

/-- `BootFlash_EraseBySectorMask`. -/
def eraseBySectorMask (sectorMask : UInt32) (info : BootFlashErrorInfo) (w : ε) : PortReturn ε :=
  if sectorMask &&& ~~~allowedEraseMask ≠ 0 then
    ⟨BootFlashResult.badAddress, setInfo info .erase 0 0 (-1) 0xFFFFFFFF, w⟩
  else eraseLoop fapi sectorMask (List.range 32) info w

/-- `BootFlash_Program_128Bits`. -/
def program128Bits (address : UInt32) (data : List UInt16) (info : BootFlashErrorInfo) (w : ε) :
    PortReturn ε :=
  let r := fapi.issueProgrammingCommand address data w
  let w := fapi.flushPipeline (fapi.waitForReady r.2)
  let flashStatus := fapi.getFsmStatus w
  if r.1 ≠ Fapi.statusSuccess ∨ flashStatus ≠ 0 then
    ⟨BootFlashResult.failed, setInfo info .program address 8 r.1 flashStatus, w⟩
  else ⟨BootFlashResult.ok, info, w⟩

/-- The loop of `BootFlash_ProgramBlock`: `units` more passes from `data` on. -/
def programLoop : Nat → UInt32 → List UInt16 → BootFlashErrorInfo → ε → PortReturn ε
  | 0, _, _, info, w => ⟨BootFlashResult.ok, info, w⟩
  | units + 1, address, data, info, w =>
    let r := program128Bits fapi address (data.take 8) info w
    if r.result ≠ BootFlashResult.ok then r
    else programLoop units (address + 8) (data.drop 8) r.info r.world

/-- `BootFlash_ProgramBlock`. The 16-bit index of its loop does not wrap below
65529 words; the service asks for 251 at most. -/
def programBlock (address : UInt32) (data : List UInt16) (wordCount : UInt16)
    (info : BootFlashErrorInfo) (w : ε) : PortReturn ε :=
  programLoop fapi ((wordCount.toNat + 7) / 8) address data info w

/-- `BootFlash_ProgramMetadataRecord`. -/
def programMetadataRecord (address : UInt32) (data : List UInt16) (wordCount : UInt16)
    (info : BootFlashErrorInfo) (w : ε) : PortReturn ε :=
  let endExclusive := address + wordCount.toUInt32
  if wordCount ≠ 64 ∨ address % 64 ≠ 0 ∨ address < slotAMetadataStart ∨
      endExclusive > slotAMetadataEnd ∨ endExclusive < address then
    ⟨BootFlashResult.badAddress,
      setInfo info .program address wordCount.toUInt32 (-1) 0xFFFFFFFF, w⟩
  else programBlock fapi address data wordCount info w

/-- `BootFlash_VerifyBlock`. -/
def verifyBlock (address : UInt32) (expected : List UInt16) (wordCount : UInt16)
    (info : BootFlashErrorInfo) (w : ε) : PortReturn ε :=
  if address % 8 ≠ 0 ∨ wordCount % 8 ≠ 0 then
    ⟨BootFlashResult.badAddress,
      setInfo info .verify address wordCount.toUInt32 (-1) 0xFFFFFFFF, w⟩
  else
    let r := fapi.doVerify address (wordCount >>> 1) expected (fapi.waitForReady w)
    let flashStatus := fapi.getFsmStatus r.2.2
    if r.1 ≠ Fapi.statusSuccess ∨ flashStatus ≠ 0 then
      ⟨BootFlashResult.failed,
        setInfo info .verify r.2.1 wordCount.toUInt32 r.1 flashStatus, r.2.2⟩
    else ⟨BootFlashResult.ok, info, r.2.2⟩

def port : FlashPort ε where
  readWord := fapi.readWord
  init := init fapi
  checkAddress := checkAddress
  eraseBySectorMask := eraseBySectorMask fapi
  programBlock := programBlock fapi
  programMetadataRecord := programMetadataRecord fapi
  verifyBlock := verifyBlock fapi

/-! ## What the address check allows -/

/-- The check in natural numbers: an address whose sum with the count has not
wrapped, and a block inside the application part of one sector. -/
theorem addressAllowed_iff {address wordCount : UInt32} {operation : BootFlashOperation}
    (small : wordCount.toNat < 0x80000000) :
    addressAllowed address wordCount operation = true ↔
      0x082400 ≤ address.toNat ∧
        (∃ s ∈ sectorTable, s.1 ≤ address.toNat ∧ address.toNat < s.2 ∧
          address.toNat + wordCount.toNat ≤ s.2) ∧
        (operation = .program → address.toNat % 8 = 0 ∧ wordCount.toNat % 8 = 0) := by
  have begin' : appStart.toNat = 0x082400 := rfl
  have end' : appEndExclusive.toNat = 0x0C0000 := rfl
  have eight : (8 : UInt32).toNat = 8 := rfl
  have table : ∀ s ∈ sectorTable, s.2 ≤ 0x0C0000 := by decide
  unfold addressAllowed
  cases found : findSectorEndExclusive address with
  | none =>
    simp only [Bool.false_eq_true, false_iff]
    rintro ⟨-, ⟨s, hs, lo, hi, -⟩, -⟩
    have := (findSectorEndExclusive_spec address _).2 ⟨s, hs, lo, hi, rfl⟩
    rw [found] at this
    cases this
  | some stop =>
    obtain ⟨s, hs, lo, hi, rfl⟩ := (findSectorEndExclusive_spec address stop).1 found
    have last := table s hs
    have sum : (address + wordCount).toNat = address.toNat + wordCount.toNat :=
      Words.toNat_add_of_lt (by omega)
    have stop : (UInt32.ofNat s.2).toNat = s.2 := UInt32.toNat_ofNat_of_lt' (by
      simp only [UInt32.size]; omega)
    have one : (∃ t ∈ sectorTable, t.1 ≤ address.toNat ∧ address.toNat < t.2 ∧
        address.toNat + wordCount.toNat ≤ t.2) ↔ address.toNat + wordCount.toNat ≤ s.2 := by
      constructor
      · rintro ⟨t, ht, lo', hi', le⟩
        rw [sectorTable_unique hs ht ⟨lo, hi⟩ ⟨lo', hi'⟩]
        exact le
      · exact fun le => ⟨s, hs, lo, hi, le⟩
    rw [one]
    simp only [gt_iff_lt, UInt32.lt_iff_toNat_lt, sum, stop, begin', end', ← UInt32.toNat_inj,
      ne_eq, UInt32.toNat_mod, eight, UInt32.toNat_zero]
    by_cases sector : s.2 < address.toNat + wordCount.toNat
    · simp only [sector, if_true, Bool.false_eq_true, false_iff]
      omega
    by_cases range : address.toNat < 0x082400 ∨ 0x0C0000 < address.toNat + wordCount.toNat
    · simp only [sector, range, if_true, if_false, Bool.false_eq_true, false_iff]
      omega
    simp only [sector, range, if_false]
    by_cases units : operation = .program ∧
        (¬ address.toNat % 8 = 0 ∨ ¬ wordCount.toNat % 8 = 0)
    · simp only [units, and_self, if_true, Bool.false_eq_true, false_iff]
      rintro ⟨-, -, aligned⟩
      have := aligned trivial
      omega
    · simp only [units, if_false, true_iff]
      refine ⟨by omega, by omega, fun program => ?_⟩
      simp only [program, true_and] at units
      omega

end F28377D

end BootUpgrade
