import BootUpgrade.Lib.Words

/-! CRC-16/CCITT-FALSE as `boot_protocol.c` computes it, bit by bit, each word
low byte first. -/

namespace BootUpgrade.BootProtocol

/-- The body of the bit loop. -/
def crcBit (crc : UInt16) : UInt16 :=
  if crc &&& 0x8000 ≠ 0 then (crc <<< 1) ^^^ 0x1021 else crc <<< 1

def crcBits : Nat → UInt16 → UInt16
  | 0, crc => crc
  | n + 1, crc => crcBits n (crcBit crc)

def crcByte (crc byteValue : UInt16) : UInt16 :=
  crcBits 8 (crc ^^^ ((byteValue &&& 0x00FF) <<< 8))

/-- The body of the loop of `BootProtocol_CrcWords`. -/
def crcWord (crc word : UInt16) : UInt16 := crcByte (crcByte crc (word &&& 0x00FF)) (word >>> 8)

def crcWords (words : List UInt16) : UInt16 := words.foldl crcWord 0xFFFF

end BootUpgrade.BootProtocol
