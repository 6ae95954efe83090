import BootUpgrade.FlashService.PayloadFlags
import BootUpgrade.System.AttachedService
import BootUpgrade.System.WorkingFlash
import Mathlib.Data.Nat.Bitwise

/-!
# The erase of an image area

The host erases the metadata sectors first and then the others of the mask. On a
Flash that works the sectors of the image are blank afterwards, the journal with
them, and every other word is as before.
-/

namespace BootUpgrade.FlashErase

open FlashArray HostImages HostWorkflow HostClient HostOperations TransferKind Dialogue RamLoading
  BootFlashService AttachedService

/-! ## Masks -/

theorem selected_iff {mask i : Nat} (small : mask < 4294967296) (hi : i < 32) :
    selected (UInt32.ofNat mask) i ↔ mask.testBit i = true := by
  have bit : (1 <<< UInt32.ofNat i : UInt32).toNat = 2 ^ i := by
    have power : 2 ^ i < 2 ^ 32 := Nat.pow_lt_pow_right (by decide) hi
    have index : (UInt32.ofNat i).toNat = i := UInt32.toNat_ofNat_of_lt' (by rw [UInt32.size]; omega)
    rw [UInt32.toNat_shiftLeft, index, Nat.mod_eq_of_lt hi]
    show 1 <<< i % 2 ^ 32 = _
    rw [Nat.one_shiftLeft, Nat.mod_eq_of_lt power]
  have whole : (UInt32.ofNat mask).toNat = mask := UInt32.toNat_ofNat_of_lt' small
  rw [selected, ne_eq, ← UInt32.toNat_inj, UInt32.toNat_and, bit, whole, Nat.and_two_pow]
  cases mask.testBit i <;> simp

theorem testBit_andNot (a b i : Nat) : (andNot a b).testBit i = (a.testBit i && !b.testBit i) := by
  rw [andNot, Nat.testBit_xor, Nat.testBit_and]
  cases a.testBit i <;> cases b.testBit i <;> rfl

theorem and_of_andNot {mask allowed : Nat} (none : andNot mask allowed = 0) :
    mask &&& allowed = mask := by
  apply Nat.eq_of_testBit_eq
  intro i
  have bit := congrArg (fun n => n.testBit i) none
  simp only [testBit_andNot, Nat.zero_testBit] at bit
  rw [Nat.testBit_and]
  cases set : mask.testBit i with
  | false => rfl
  | true =>
    rw [set] at bit
    simpa using bit

/-- A mask of sectors that the host may erase. -/
structure Erasable (mask : Nat) : Prop where
  some : mask ≠ 0
  allowed : mask &&& Cpu1.flash.allowedEraseMask = mask

namespace Erasable

variable {mask : Nat} (erasable : Erasable mask)
include erasable

theorem small : mask ≤ 0x3FFE := by
  rw [← erasable.allowed]
  exact Nat.and_le_right

theorem allowed_port : UInt32.ofNat mask &&& ~~~F28377D.allowedEraseMask = 0 := by
  have none : UInt32.ofNat Cpu1.flash.allowedEraseMask &&& ~~~F28377D.allowedEraseMask = 0 := by
    decide
  rw [← erasable.allowed, UInt32.ofNat_and, UInt32.and_assoc, none]
  exact UInt32.and_zero

theorem inTable {i : Nat} (bit : mask.testBit i = true) : i < 14 := by
  apply Decidable.byContradiction
  intro large
  have small := erasable.small
  have power : 2 ^ 14 ≤ 2 ^ i := Nat.pow_le_pow_right (by decide) (Nat.not_lt.1 large)
  rw [Nat.testBit_lt_two_pow (by omega)] at bit
  cases bit

end Erasable

/-- The address lies in a sector of the mask. -/
def InArea (mask a : Nat) : Prop :=
  ∃ i s, F28377D.sectorTable[i]? = some s ∧ s.1 ≤ a ∧ a < s.2 ∧ mask.testBit i = true

theorem Erasable.selected_area {mask a : Nat} (erasable : Erasable mask) :
    Selected (UInt32.ofNat mask) 32 a ↔ InArea mask a := by
  have small := erasable.small
  constructor
  · rintro ⟨i, lt, bit, s, hs, low, high⟩
    exact ⟨i, s, hs, low, high, (selected_iff (by omega) lt).1 bit⟩
  · rintro ⟨i, s, hs, low, high, bit⟩
    have lt := erasable.inTable bit
    exact ⟨i, by omega, (selected_iff (by omega) (by omega)).2 bit, s, hs, low, high⟩

/-- `m'` is `m` with the sectors of the mask erased. -/
structure AreaErased (mask : Nat) (m m' : Memory.Words) : Prop where
  inside : ∀ a, InArea mask a → m' a = BootMetadata.erasedWord
  outside : ∀ a, ¬ InArea mask a → m' a = m a

theorem Erasable.erased {mask : Nat} (erasable : Erasable mask) (m : Memory.Words) :
    AreaErased mask m (eraseSelected m (UInt32.ofNat mask) 32) :=
  ⟨fun _ inside => eraseSelected_inside (erasable.selected_area.2 inside),
    fun _ outside => eraseSelected_outside fun h => outside (erasable.selected_area.1 h)⟩

/-- One erase after the other. -/
theorem AreaErased.after {first second mask : Nat} {m m₁ m₂ : Memory.Words}
    (bits : ∀ i, mask.testBit i = (first.testBit i || second.testBit i))
    (before : AreaErased first m m₁) (behind : AreaErased second m₁ m₂) : AreaErased mask m m₂ := by
  have area {a : Nat} : InArea mask a ↔ InArea first a ∨ InArea second a := by
    simp only [InArea, bits, Bool.or_eq_true]
    constructor
    · rintro ⟨i, s, hs, low, high, bit | bit⟩
      · exact .inl ⟨i, s, hs, low, high, bit⟩
      · exact .inr ⟨i, s, hs, low, high, bit⟩
    · rintro (⟨i, s, hs, low, high, bit⟩ | ⟨i, s, hs, low, high, bit⟩)
      · exact ⟨i, s, hs, low, high, .inl bit⟩
      · exact ⟨i, s, hs, low, high, .inr bit⟩
  constructor
  · intro a inside
    by_cases again : InArea second a
    · exact behind.inside a again
    · rw [behind.outside a again]
      exact before.inside a ((area.1 inside).resolve_right again)
  · intro a outside
    obtain ⟨notFirst, notSecond⟩ := not_or.1 fun h => outside (area.2 h)
    rw [behind.outside a notSecond, before.outside a notFirst]

/-! ## One request -/

/-- A service over a Flash that works, as an operation leaves it: without a session, with the
gate at `verified` and with the words `m`. -/
structure Leaves (s s' : FlashService FlashArray) (verified : UInt16) (m : Memory.Words) : Prop where
  working : Working s'.world
  words : s'.world.words = m
  runtime : ∃ flag, s'.runtime = { s.runtime with
    session := .reset, verifySucceeded := verified, flashInitialized := flag }

section
variable {s s' s₁ : FlashService FlashArray} {verified verified' : UInt16} {m m' : Memory.Words}
  {mask : Nat}

theorem Leaves.trans (first : Leaves s s₁ verified m) (second : Leaves s₁ s' verified' m') :
    Leaves s s' verified' m' := by
  obtain ⟨flag, runtime⟩ := first.runtime
  obtain ⟨flag', runtime'⟩ := second.runtime
  exact ⟨second.working, second.words, flag', by rw [runtime', runtime]⟩

theorem Leaves.initialized (left : Leaves s s' verified m) (initialized : s.runtime.initialized ≠ 0) :
    s'.runtime.initialized ≠ 0 := by
  obtain ⟨flag, runtime⟩ := left.runtime
  rw [runtime]
  exact initialized

theorem Leaves.idle (left : Leaves s s' verified m) : s'.runtime.session.operation = .none := by
  obtain ⟨flag, runtime⟩ := left.runtime
  rw [runtime]
  rfl

/-- A service over a Flash that works, with room for the packets of the client. -/
structure Serves (ctx : FlashOperationContext) (s : FlashService FlashArray) : Prop where
  working : Working s.world
  initialized : s.runtime.initialized ≠ 0
  room : ctx.maxDataWords ≤ s.runtime.maxDataWords.toNat

theorem Leaves.serves {ctx : FlashOperationContext} (left : Leaves s s' verified m)
    (serves : Serves ctx s) : Serves ctx s' := by
  obtain ⟨flag, runtime⟩ := left.runtime
  refine ⟨left.working, left.initialized serves.initialized, ?_⟩
  rw [runtime]
  exact serves.room

/-- The service erases the sectors of an allowed mask. -/
theorem handleErase_working {request : BootProtocolFrame} (working : Working s.world)
    (length : request.payloadWords = 3) (flags : request.word 2 = 0)
    (asked : request.u32 0 = UInt32.ofNat mask) (erasable : Erasable mask) :
    let o := handleErase FlashArray.port request s
    o.status = BootStatus.ok ∧
      Leaves s o.service 0 (eraseSelected s.world.words (UInt32.ofNat mask) 32) := by
  have small := erasable.small
  have some : ¬ (UInt32.ofNat mask = 0) := by
    intro none
    have zero := congrArg UInt32.toNat none
    rw [UInt32.toNat_ofNat_of_lt' (by rw [UInt32.size]; omega)] at zero
    exact erasable.some zero
  have inTable : ∀ i < 32, selected (UInt32.ofNat mask) i → i < 14 :=
    fun i hi bit => erasable.inTable ((selected_iff (by omega) hi).1 bit)
  obtain ⟨flag, w, ensured, live, same⟩ := ensureFlash_working working BootErr.opErase
    BootStatus.eraseFailed
  let info := { BootFlashErrorInfo.zero with operation := .erase, extra := UInt32.ofNat mask }
  obtain ⟨ok, live', words⟩ := eraseBySectorMask_working live info erasable.allowed_port inTable
  have mapped : mapResult (FlashArray.port.eraseBySectorMask (UInt32.ofNat mask) info w).result
      BootStatus.eraseFailed BootStatus.badAddress = BootStatus.ok := by
    rw [ok]
    rfl
  have body : handleErase FlashArray.port request s = succeed (setVerifySucceeded (resetSession
      { runtime := { s.runtime with flashInitialized := flag }
        world := (FlashArray.port.eraseBySectorMask (UInt32.ofNat mask) info w).world }) 0) := by
    unfold handleErase
    rw [if_neg (not_not_intro length), if_neg (not_not_intro flags)]
    dsimp only
    rw [asked, if_neg some, ensured, andThen_of_ok rfl]
    exact if_neg (not_not_intro mapped)
  rw [same] at words
  rw [body]
  exact ⟨rfl, live', words, flag, rfl⟩

def eraseRequest (mask : Nat) : HostRequest := hostRequest BootCmd.erase (lowHigh mask ++ [0])

theorem erase_accepted (working : Working s.world) (initialized : s.runtime.initialized ≠ 0)
    (erasable : Erasable mask) :
    Accepts (attachedServer FlashArray.port) s (eraseRequest mask) ∧
      Leaves s (attachedServer FlashArray.port s (eraseRequest mask)).2 0
        (eraseSelected s.world.words (UInt32.ofNat mask) 32) := by
  have fits : (eraseRequest mask).payload.length ≤ 256 := show 3 ≤ 256 by decide
  have small := erasable.small
  have other : ¬ ((eraseRequest mask).payload.length ≤ 256 ∧
      (eraseRequest mask).command = BootCmd.getMetadataSummary) :=
    fun h => absurd h.2 (show BootCmd.erase ≠ BootCmd.getMetadataSummary by decide)
  have length : (requestFrame (eraseRequest mask)).payloadWords = 3 := by
    rw [payloadWords_requestFrame fits]
    rfl
  have flags : (requestFrame (eraseRequest mask)).word 2 = 0 := by
    rw [word_requestFrame fits]
    rfl
  have asked : (requestFrame (eraseRequest mask)).u32 0 = UInt32.ofNat mask := by
    rw [← UInt32.toNat_inj, u32_requestFrame fits,
      UInt32.toNat_ofNat_of_lt' (by rw [UInt32.size]; omega)]
    exact joinU32_lowHigh (by omega)
  obtain ⟨ok, left⟩ := handleErase_working working length flags asked erasable
  have handled : attachedServer FlashArray.port s (eraseRequest mask) =
      (.ok ⟨(handleErase FlashArray.port (requestFrame (eraseRequest mask)) s).status, []⟩,
        (handleErase FlashArray.port (requestFrame (eraseRequest mask)) s).service) := by
    rw [attachedServer, if_neg other, flashServer, dif_pos fits, frameOf_eq fits,
      bootHandleCommand_of_initialized initialized, dispatch_erase rfl]
  rw [Accepts, handled]
  dsimp only
  refine ⟨⟨_, rfl, ?_⟩, left⟩
  rw [ok]

/-! ## The erase of the host -/

variable {ctx : FlashOperationContext}

theorem eraseProtocol_succeeds (room : 3 ≤ ctx.maxPayloadWords) (working : Working s.world)
    (initialized : s.runtime.initialized ≠ 0) (erasable : Erasable mask) :
    Succeeds (attachedServer FlashArray.port) (eraseProtocol ctx mask) s fun _ s' =>
      Leaves s s' 0 (eraseSelected s.world.words (UInt32.ofNat mask) 32) := by
  obtain ⟨accepted, left⟩ := erase_accepted working initialized erasable
  have encodable : Encodable ctx.maxPayloadWords (lowHigh mask ++ [0]) := by
    refine ⟨room, ?_⟩
    intro word mem
    rcases List.mem_append.1 mem with mem | mem
    · exact lowHigh_le (Nat.le_trans erasable.small (by decide)) word mem
    · rw [List.mem_singleton.1 mem]
      decide
  unfold eraseProtocol
  rw [splitU32_ok (Nat.le_trans erasable.small (by decide))]
  exact (succeeds_transact_unit encodable).2 ⟨accepted, left⟩

/-- Two masks are erased one after the other, or one alone when the other is empty. -/
theorem eraseMasks_completes (free : Uninterrupted ctx) (room : 3 ≤ ctx.maxPayloadWords)
    (working : Working s.world) (initialized : s.runtime.initialized ≠ 0) {rest : Nat}
    (erasable : Erasable mask) (others : rest ≠ 0 → Erasable rest) {both : Nat}
    (bits : ∀ i, both.testBit i = (mask.testBit i || rest.testBit i)) :
    ∃ s' m, Completes (attachedServer FlashArray.port)
        (eraseMasks ctx ([mask, rest].filter (· ≠ 0))) s ([mask, rest].filter (· ≠ 0)) s' ∧
      Leaves s s' 0 m ∧ AreaErased both s.world.words m := by
  have erases (masks : List Nat) {m : Memory.Words}
      (ends : Succeeds (attachedServer FlashArray.port) (each (eraseProtocol ctx) masks) s
        fun _ u => Leaves s u 0 m) :
      ∃ s', Completes (attachedServer FlashArray.port) (eraseMasks ctx masks) s masks s' ∧
        Leaves s s' 0 m := by
    obtain ⟨_, ended, left⟩ := ends
    refine ⟨_, ?_, left⟩
    unfold eraseMasks
    dsimp only
    rw [free.polls, if_neg Bool.false_ne_true, Completes, succeeds_bind_iff]
    refine ⟨_, ended, ?_⟩
    dsimp only
    rw [if_neg Bool.false_ne_true, succeeds_done_iff]
    exact ⟨rfl, rfl⟩
  have first := eraseProtocol_succeeds room working initialized erasable
  by_cases none : rest = 0
  · have masks : [mask, rest].filter (· ≠ 0) = [mask] := by simp [none, erasable.some]
    rw [masks]
    obtain ⟨s', completes, left⟩ := erases [mask]
      (succeeds_bind first fun _ s₁ left => succeeds_done left)
    refine ⟨s', _, completes, left, ?_⟩
    have same : both = mask := by
      apply Nat.eq_of_testBit_eq
      intro i
      rw [bits, none, Nat.zero_testBit, Bool.or_false]
    rw [same]
    exact erasable.erased s.world.words
  · have masks : [mask, rest].filter (· ≠ 0) = [mask, rest] := by simp [none, erasable.some]
    rw [masks]
    have second : Succeeds (attachedServer FlashArray.port) (each (eraseProtocol ctx) [mask, rest]) s
        fun _ u => Leaves s u 0
          (eraseSelected (eraseSelected s.world.words (UInt32.ofNat mask) 32) (UInt32.ofNat rest) 32) := by
      apply succeeds_bind first
      intro _ s₁ left
      apply succeeds_bind
        (eraseProtocol_succeeds room left.working (left.initialized initialized) (others none))
      intro _ s₂ left₂
      rw [left.words] at left₂
      exact succeeds_done (left.trans left₂)
    obtain ⟨s', completes, left⟩ := erases [mask, rest] second
    exact ⟨s', _, completes, left, (erasable.erased _).after bits ((others none).erased _)⟩

end

/-! ## The area of an image -/

section
variable {image : FirmwareImage} {prepared : PreparedFlashImage} (prepare : Prepared image prepared)
include prepare

theorem metadata_bit (i : Nat) : prepared.sectorMask.testBit i =
    ((imageSectorMask image).testBit i || Cpu1.flash.metadataSectorMask.testBit i) := by
  rw [prepare.sectorMask, Nat.testBit_or]

/-- The mask of a prepared image names the metadata sectors. -/
theorem effective_mask : prepared.sectorMask ||| Cpu1.flash.metadataSectorMask = prepared.sectorMask := by
  rw [prepare.sectorMask, Nat.or_assoc, Nat.or_self]

theorem erasable_image : Erasable prepared.sectorMask := by
  have within := and_of_andNot prepare.allowed
  have metadata : Cpu1.flash.metadataSectorMask &&& Cpu1.flash.allowedEraseMask =
      Cpu1.flash.metadataSectorMask := rfl
  constructor
  · intro none
    have bit := metadata_bit prepare 1
    rw [none, Nat.zero_testBit, show Cpu1.flash.metadataSectorMask.testBit 1 = true from rfl,
      Bool.or_true] at bit
    cases bit
  · rw [prepare.sectorMask, Nat.and_or_distrib_right, within, metadata]

theorem erasable_rest (some : andNot prepared.sectorMask Cpu1.flash.metadataSectorMask ≠ 0) :
    Erasable (andNot prepared.sectorMask Cpu1.flash.metadataSectorMask) := by
  have whole := (erasable_image prepare).allowed
  refine ⟨some, ?_⟩
  apply Nat.eq_of_testBit_eq
  intro i
  have bit := congrArg (·.testBit i) whole
  rw [Nat.testBit_and] at bit ⊢
  rw [testBit_andNot, Bool.and_right_comm, bit]

theorem erase_admitted {ctx : FlashOperationContext} (flash : ctx.flash = some Cpu1.flash) :
    ((flashLayout ctx).bind fun flash => checkSectorMask flash
      (prepared.sectorMask ||| ((ctx.flash.map (·.metadataSectorMask)).getD 0))) = .ok () := by
  have erasable := erasable_image prepare
  have forbidden : prepared.sectorMask &&& Cpu1.flash.forbiddenEraseMask = 0 := by
    have metadata : Cpu1.flash.metadataSectorMask &&& Cpu1.flash.forbiddenEraseMask = 0 := rfl
    rw [prepare.sectorMask, Nat.and_or_distrib_right, prepare.bootSector, metadata, Nat.or_self]
  have allowed : andNot prepared.sectorMask Cpu1.flash.allowedEraseMask = 0 := by
    rw [andNot, erasable.allowed, Nat.xor_self]
  rw [flashLayout, flash]
  show checkSectorMask Cpu1.flash (prepared.sectorMask ||| Cpu1.flash.metadataSectorMask) = _
  rw [effective_mask prepare, checkSectorMask, if_neg erasable.some,
    if_neg (not_not_intro forbidden), if_neg (not_not_intro allowed)]

/-- The masks that the host asks for. -/
def areaMasks (prepared : PreparedFlashImage) : List Nat :=
  [Cpu1.flash.metadataSectorMask,
    andNot prepared.sectorMask Cpu1.flash.metadataSectorMask].filter (· ≠ 0)

/-- The service erases the area of the image. -/
theorem eraseArea_completes {ctx : FlashOperationContext} {s : FlashService FlashArray}
    (free : Uninterrupted ctx) (room : 3 ≤ ctx.maxPayloadWords) (working : Working s.world)
    (initialized : s.runtime.initialized ≠ 0) :
    ∃ s' m, Completes (attachedServer FlashArray.port) (eraseMasks ctx (areaMasks prepared)) s
        (areaMasks prepared) s' ∧
      Leaves s s' 0 m ∧ AreaErased prepared.sectorMask s.world.words m := by
  apply eraseMasks_completes free room working initialized ⟨by decide, by decide⟩
    (erasable_rest prepare)
  intro i
  rw [testBit_andNot, metadata_bit prepare]
  cases (imageSectorMask image).testBit i <;>
    cases Cpu1.flash.metadataSectorMask.testBit i <;> rfl

end

end BootUpgrade.FlashErase
