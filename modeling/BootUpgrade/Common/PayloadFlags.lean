import BootUpgrade.Common.Protocol

/-!
# Payload flags

The commands whose payload layout has a flags field, and requests that differ
in that field only.
-/

namespace BootUpgrade

/-- The commands with a flags field in their payload, with its word. -/
def payloadFlags : List (UInt16 × Nat) :=
  [(BootCmd.serviceAttach, 6), (BootCmd.ramLoadBegin, 8), (BootCmd.ramCheckCrc, 4),
    (BootCmd.runRam, 2), (BootCmd.memoryRead, 3), (BootCmd.run, 3), (BootCmd.erase, 2),
    (BootCmd.programBegin, 8), (BootCmd.verifyBegin, 8), (BootCmd.metadataAppendRecord, 15)]

/-- The two requests agree on everything but payload word `index`. -/
structure SameButFlags (index : Nat) (r r' : BootProtocolFrame) : Prop where
  protocolVer : r.protocolVer = r'.protocolVer
  packetType : r.packetType = r'.packetType
  command : r.command = r'.command
  sequence : r.sequence = r'.sequence
  flags : r.flags = r'.flags
  payloadWords : r.payloadWords = r'.payloadWords
  word : ∀ i, i ≠ index → r.word i = r'.word i

namespace SameButFlags

variable {index : Nat} {r r' : BootProtocolFrame} (same : SameButFlags index r r')
include same

theorem u32 {i : Nat} (low : i ≠ index) (high : i + 1 ≠ index) : r.u32 i = r'.u32 i := by
  rw [BootProtocolFrame.u32, BootProtocolFrame.u32, same.word i low, same.word (i + 1) high]

theorem words {start count : Nat} (before : start + count ≤ index) :
    r.words start count = r'.words start count := by
  apply List.ext_getElem?
  intro k
  simp only [BootProtocolFrame.words, List.getElem?_take, List.getElem?_drop]
  by_cases hk : k < count
  · rw [if_pos hk, if_pos hk]
    have word := same.word (start + k) (by omega)
    unfold BootProtocolFrame.word at word
    by_cases inside : start + k < 256
    · simp only [List.getD_eq_getElem?_getD, Vector.length_toList, inside,
        List.getElem?_eq_getElem, Option.getD_some] at word ⊢
      rw [word]
    · rw [List.getElem?_eq_none (by rw [Vector.length_toList]; omega),
        List.getElem?_eq_none (by rw [Vector.length_toList]; omega)]
  · rw [if_neg hk, if_neg hk]

end SameButFlags

theorem sameButFlags_ofWords (command sequence : UInt16) (words : List UInt16) (index : Nat)
    (value : UInt16) (h : words.length ≤ 256) (h' : (words.set index value).length ≤ 256) :
    SameButFlags index (.ofWords command sequence words h)
      (.ofWords command sequence (words.set index value) h') := by
  constructor
  case word =>
    intro i hi
    rw [BootProtocolFrame.word_ofWords, BootProtocolFrame.word_ofWords, List.getD_eq_getElem?_getD,
      List.getD_eq_getElem?_getD, List.getElem?_set_ne (Ne.symm hi)]
  case payloadWords =>
    dsimp only [BootProtocolFrame.ofWords]
    rw [List.length_set]
  all_goals dsimp only [BootProtocolFrame.ofWords]

end BootUpgrade
