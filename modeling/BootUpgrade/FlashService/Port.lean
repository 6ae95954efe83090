import BootUpgrade.Common.Protocol

/-!
# The Flash port of `boot_flash_port.h`

A port is given by its functions over a world `σ`, the device behind it. The
service is modelled over any port, so what is proved about it holds whatever
the port's calls do and report. `FlashPort.logged` is a port that also keeps a
record of its calls.
-/

namespace BootUpgrade

abbrev BootFlashResult := UInt16

namespace BootFlashResult

def ok : BootFlashResult := 0
def initFailed : BootFlashResult := 1
def notImplemented : BootFlashResult := 2
def badAddress : BootFlashResult := 3
def failed : BootFlashResult := 4

end BootFlashResult

inductive BootFlashOperation where
  | none | erase | program | verify
  deriving DecidableEq, Repr

structure BootFlashErrorInfo where
  operation : BootFlashOperation
  address : UInt32
  lengthWords : UInt32
  apiStatus : Int32
  fsmStatus : UInt32
  extra : UInt32
  deriving DecidableEq, Repr

/-- `{BOOT_FLASH_OP_NONE, 0UL, 0UL, 0L, 0UL, 0UL}`. -/
def BootFlashErrorInfo.zero : BootFlashErrorInfo := ⟨.none, 0, 0, 0, 0, 0⟩

/-- What a port call leaves: its result, the error info and the world. -/
structure PortReturn (σ : Type) where
  result : BootFlashResult
  info : BootFlashErrorInfo
  world : σ

/-- The port functions, and `BOOT_FLASH_READ_WORD`. -/
structure FlashPort (σ : Type) where
  readWord : σ → UInt32 → UInt16
  init : BootFlashErrorInfo → σ → PortReturn σ
  checkAddress : UInt32 → UInt32 → BootFlashOperation → BootFlashErrorInfo →
    BootFlashResult × BootFlashErrorInfo
  eraseBySectorMask : UInt32 → BootFlashErrorInfo → σ → PortReturn σ
  programBlock : UInt32 → List UInt16 → UInt16 → BootFlashErrorInfo → σ → PortReturn σ
  programMetadataRecord : UInt32 → List UInt16 → UInt16 → BootFlashErrorInfo → σ → PortReturn σ
  verifyBlock : UInt32 → List UInt16 → UInt16 → BootFlashErrorInfo → σ → PortReturn σ

/-! ## A port that records its calls -/

/-- A call that may change the device, with its arguments. -/
inductive PortCall where
  | init
  | eraseBySectorMask (sectorMask : UInt32)
  | programBlock (address : UInt32) (data : List UInt16) (wordCount : UInt16)
  | programMetadataRecord (address : UInt32) (data : List UInt16) (wordCount : UInt16)
  | verifyBlock (address : UInt32) (expected : List UInt16) (wordCount : UInt16)
  deriving DecidableEq, Repr

structure LoggedCall (σ : Type) where
  call : PortCall
  before : σ
  result : BootFlashResult
  after : σ

/-- A world and the calls made on it so far, oldest first. -/
structure Logged (σ : Type) where
  world : σ
  calls : List (LoggedCall σ)

namespace Logged

variable {σ : Type}

/-- Make a call and record it. -/
def record (w : Logged σ) (call : PortCall) (ret : PortReturn σ) : PortReturn (Logged σ) :=
  ⟨ret.result, ret.info, ⟨ret.world, w.calls ++ [⟨call, w.world, ret.result, ret.world⟩]⟩⟩

end Logged

def FlashPort.logged {σ : Type} (port : FlashPort σ) : FlashPort (Logged σ) where
  readWord w := port.readWord w.world
  init info w := w.record .init (port.init info w.world)
  checkAddress := port.checkAddress
  eraseBySectorMask mask info w :=
    w.record (.eraseBySectorMask mask) (port.eraseBySectorMask mask info w.world)
  programBlock address data wordCount info w :=
    w.record (.programBlock address data wordCount)
      (port.programBlock address data wordCount info w.world)
  programMetadataRecord address data wordCount info w :=
    w.record (.programMetadataRecord address data wordCount)
      (port.programMetadataRecord address data wordCount info w.world)
  verifyBlock address expected wordCount info w :=
    w.record (.verifyBlock address expected wordCount)
      (port.verifyBlock address expected wordCount info w.world)

end BootUpgrade
