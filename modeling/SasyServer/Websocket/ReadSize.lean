import Mathlib.Data.List.Basic
import Mathlib.Data.Int.ModEq

/-!
# The frame header: `readSize` and `decodeWsmaskData`

`luaclib-src/lua-websocketnetpack.c`, lines 15 to 50 and 225 to 347. A pointer into a buffer together with the number
of bytes left is the list of these bytes, so `size` is the length of the list; `readSizeOf` is `readSize` with the
`int` that a caller passes for a number of bytes that may be larger. The loads through `uint32_t *` and `uint64_t *`
are those of a little-endian machine.

`readSize` answers with an `int`: the payload length, or one of the sentinels -1 (the header is not complete), -2 (the first
two bytes are to be thrown away) and -3 (the peer closes). The length of the third encoding is a 64-bit number that is
narrowed to an `int`, so a declared length can itself be negative, or be one of the sentinels.
-/

namespace SasyServer.Websocket

def queueSize : Nat := 1024
def hashSize : Nat := 4096
def headerSize : Nat := 1024
def websocketHeaderLen : Nat := 2
def websocketMaskLen : Nat := 4
def maxPackSize : Nat := 10 * 1024

/-- The four bytes of `int mask`, which is written with `memcpy` and read through a `char *`. -/
structure Mask where
  k0 : UInt8
  k1 : UInt8
  k2 : UInt8
  k3 : UInt8
  deriving DecidableEq, Repr

/-- `mask = 0`. -/
def Mask.zero : Mask := ⟨0, 0, 0, 0⟩

/-- `masks[i % websocketMaskLen]`. -/
def Mask.byte (m : Mask) (i : Nat) : UInt8 :=
  match i % websocketMaskLen with
  | 0 => m.k0
  | 1 => m.k1
  | 2 => m.k2
  | _ => m.k3

/-- The bytes in the order they stand in the header. -/
def Mask.bytes (m : Mask) : List UInt8 := [m.k0, m.k1, m.k2, m.k3]

/-- The out parameters of `readSize` besides `hasunmaskSize`, which it never writes. The callers set them to zero first. -/
structure Head where
  packHeadLength : Nat
  mask : Mask
  ismask : Bool
  deriving DecidableEq, Repr

/-- What the callers pass in. -/
def Head.init : Head := ⟨0, Mask.zero, false⟩

/-- The value of four bytes loaded through a `uint32_t *`. -/
def load32 (b0 b1 b2 b3 : UInt8) : Nat := b0.toNat + 2 ^ 8 * b1.toNat + 2 ^ 16 * b2.toNat + 2 ^ 24 * b3.toNat

/-- The value of eight bytes loaded through a `uint64_t *`. -/
def load64 (b0 b1 b2 b3 b4 b5 b6 b7 : UInt8) : Nat := load32 b0 b1 b2 b3 + 2 ^ 32 * load32 b4 b5 b6 b7

/-- `ntohs`, whose argument is a `uint16_t`. -/
def ntohs (x : Nat) : Nat := x % 2 ^ 16 % 2 ^ 8 * 2 ^ 8 + x % 2 ^ 16 / 2 ^ 8

/-- `ntohl`: the four bytes of a `uint32_t` the other way round. -/
def ntohl (x : Nat) : Nat :=
  x % 2 ^ 8 * 2 ^ 24 + x / 2 ^ 8 % 2 ^ 8 * 2 ^ 16 + x / 2 ^ 16 % 2 ^ 8 * 2 ^ 8 + x / 2 ^ 24 % 2 ^ 8

/-- `ntoh64`: each half through `ntohl`, the low half put in front. -/
def ntoh64 (host : Nat) : Nat :=
  let low := ntohl (host % 2 ^ 32)
  let high := ntohl (host / 2 ^ 32 % 2 ^ 32)
  low * 2 ^ 32 + high

/-- The conversion of a `uint64_t` to an `int`. -/
def toInt32 (n : Nat) : Int := Int.bmod n (2 ^ 32)

/-- The end of `readSize`: the mask key, if there is one, and the offset. -/
def readMask (packSize : Int) (offset : Nat) (isMask : UInt8) (buffer : List UInt8) : Int × Head :=
  if isMask ≠ 0 then
    match buffer.drop offset with
    | m0 :: m1 :: m2 :: m3 :: _ => (packSize, ⟨offset + websocketMaskLen, ⟨m0, m1, m2, m3⟩, true⟩)
    | _ => (-1, Head.init)
  else (packSize, ⟨offset, Mask.zero, false⟩)

/-- `readSize`: the payload length or a sentinel, and the out parameters. -/
def readSize (buffer : List UInt8) : Int × Head :=
  match buffer with
  | buffer0 :: buffer1 :: rest =>
    let fin := (buffer0 >>> 7) &&& 0x1
    let rsv1 := (buffer0 >>> 6) &&& 0x1
    let rsv2 := (buffer0 >>> 5) &&& 0x1
    let rsv3 := (buffer0 >>> 4) &&& 0x1
    let opcode := buffer0 &&& 0xf
    let isMask := (buffer1 >>> 7) &&& 0x1
    if 0x0 ≠ rsv1 ∨ 0x0 ≠ rsv2 ∨ 0x0 ≠ rsv3 then (-2, Head.init)
    else if fin = 0 ∨ opcode = 0 then (-2, Head.init)
    else if opcode = 8 then (-3, Head.init)
    else
      let payloadLength := buffer1 &&& 0x7f
      if payloadLength < 0x7E then
        readMask payloadLength.toNat websocketHeaderLen isMask buffer
      else if 0x7E = payloadLength then
        match rest with
        -- the source loads four bytes; `ntohs` keeps the first two of them
        | b0 :: b1 :: _ => readMask (ntohs (load32 b0 b1 0 0)) (websocketHeaderLen + 2) isMask buffer
        | _ => (-1, Head.init)
      else
        match rest with
        | b0 :: b1 :: b2 :: b3 :: b4 :: b5 :: b6 :: b7 :: _ =>
          readMask (toInt32 (ntoh64 (load64 b0 b1 b2 b3 b4 b5 b6 b7))) (websocketHeaderLen + 8) isMask buffer
        | _ => (-1, Head.init)
  | _ => (-1, Head.init)

/-- `readSize` with its `int size` for a buffer of any length: from 2^31 bytes on the size is negative or too small. -/
def readSizeOf (buffer : List UInt8) : Int × Head :=
  let size := toInt32 buffer.length
  if size < 2 then (-1, Head.init) else readSize (buffer.take size.toNat)

/-- The loop around `readSize` in `push_more` and `filter_data_`: throw away two bytes as long as the answer is -2. The third
component is the buffer that is left. -/
def readFrameSize : List UInt8 → Int × Head × List UInt8
  | b0 :: b1 :: rest =>
    match readSize (b0 :: b1 :: rest) with
    | (n, h) => if n = -2 then readFrameSize rest else (n, h, b0 :: b1 :: rest)
  | buffer => ((readSize buffer).1, (readSize buffer).2, buffer)

/-- `if (packSize > maxPackSize) packSize = maxPackSize`. -/
def clampSize (packSize : Int) : Int := if packSize > maxPackSize then maxPackSize else packSize

/-- `decodeWsmaskData` on the bytes it is given: the bytes it leaves and the new `hasunmaskSize`. -/
def decodeWsmaskData (buffer : List UInt8) (mask : Mask) (ismask : Bool) (hasunmaskSize : Nat) : List UInt8 × Nat :=
  if ismask then (buffer.mapIdx fun i b => b ^^^ mask.byte (i + hasunmaskSize), hasunmaskSize + buffer.length)
  else (buffer, hasunmaskSize)

end SasyServer.Websocket
