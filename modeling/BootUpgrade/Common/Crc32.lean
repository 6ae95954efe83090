/-! CRC32/IEEE as `boot_crc32.c` computes it: reflected, bit by bit, each
16-bit word low byte first. -/

namespace BootUpgrade.BootCrc32

def initValue : UInt32 := 0xFFFFFFFF
def xoroutValue : UInt32 := 0xFFFFFFFF

/-- The body of the bit loop. -/
def updateBit (crc : UInt32) : UInt32 :=
  if crc &&& 1 ≠ 0 then (crc >>> 1) ^^^ 0xEDB88320 else crc >>> 1

def updateBits : Nat → UInt32 → UInt32
  | 0, crc => crc
  | n + 1, crc => updateBits n (updateBit crc)

def updateByte (crc : UInt32) (byteValue : UInt16) : UInt32 :=
  updateBits 8 (crc ^^^ (byteValue &&& 0x00FF).toUInt32)

def updateWord (crc : UInt32) (wordValue : UInt16) : UInt32 :=
  updateByte (updateByte crc (wordValue &&& 0x00FF)) ((wordValue >>> 8) &&& 0x00FF)

def finalize (crc : UInt32) : UInt32 := crc ^^^ xoroutValue

/-- The running value after `words`, which the RAM load keeps between packets. -/
def updateWords (crc : UInt32) (words : List UInt16) : UInt32 := words.foldl updateWord crc

def calcWords (words : List UInt16) : UInt32 := finalize (updateWords initValue words)

theorem updateWords_append (crc : UInt32) (xs ys : List UInt16) :
    updateWords crc (xs ++ ys) = updateWords (updateWords crc xs) ys :=
  List.foldl_append

theorem finalize_finalize (crc : UInt32) : finalize (finalize crc) = crc := by
  rw [finalize, finalize, UInt32.xor_assoc, UInt32.xor_self, UInt32.xor_zero]

end BootUpgrade.BootCrc32
