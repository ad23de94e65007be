import Mathlib.Data.List.Basic
import Mathlib.Data.Int.ModEq

/-!
# Network packets

`luaclib-src/lua-pbcc.c`: the packet around the bytes of a message, with a header of two bytes that says how many bytes
follow, and the way back from these bytes; and `read_size` of `skynet/lualib-src/lua-netpack.c`, by which the splitter of the
gateway reads the header. A pointer with a size is the list of the bytes.

Left out are the sum `k` that `packNetPacket` computes and does not use, and whether the packet is a pointer or a string.
-/

namespace SasyServer.Pbcc

/-- `n & 0xff`, stored in a byte. -/
def lowByte (n : Nat) : UInt8 := UInt8.ofNat (n &&& 0xff)

/-- `packNetPacket`; `none` is the error for a message that is too long. -/
def packNetPacket (ptr : List UInt8) (protoNo : Nat) : Option (List UInt8) :=
  let size := ptr.length
  if size ≥ 0x10000 then none
  else
    -- the length of the payload is not checked again
    let size := size + 4
    some ([lowByte (size >>> 8), lowByte size, 0, lowByte (protoNo >>> 16), lowByte (protoNo >>> 8), lowByte protoNo] ++ ptr)

/-- `unpackNetPayload`: the protocol number, the body, 0 and the first byte. A size below 3 is an error, and with a size of 3
it reads past the end of the payload. -/
def unpackNetPayload : List UInt8 → Option (Nat × List UInt8 × Nat × UInt8)
  | p0 :: p1 :: p2 :: p3 :: body => some (p1.toNat <<< 16 ||| p2.toNat <<< 8 ||| p3.toNat, body, 0, p0)
  | _ => none

/-- What `l_unpackNetPayload` pushes when it is given a pointer: the protocol number, the start and the length of the string
of the body, as `lua_pushlstring` is given them, 0 and the first byte. `reads` is not in the code: the offsets from the
pointer that are read. -/
structure Unpacked where
  pbNo : Nat
  bodyStart : Nat
  bodyLength : Int
  k : Nat
  first : UInt8
  reads : List Nat
  deriving DecidableEq, Repr

/-- The `int size` of a payload of so many bytes. -/
def sizeOfPayload (n : Nat) : Int := Int.bmod n (2 ^ 32)

/-- `l_unpackNetPayload` on a pointer and a size; `none` is the error of an invalid format. -/
def unpackPointer (ptr : Nat → UInt8) (size : Int) : Option Unpacked :=
  if size < 3 then none
  else
    let pbNo := (ptr 1).toNat <<< 16 ||| (ptr 2).toNat <<< 8 ||| (ptr 3).toNat
    some ⟨pbNo, 4, size - 4, 0, ptr 0, [1, 2, 3] ++ List.range' 4 (size - 4).toNat ++ [0]⟩

/-- `read_size`. -/
def readSize : List UInt8 → Nat
  | b0 :: b1 :: _ => b0.toNat <<< 8 ||| b1.toNat
  | _ => 0

end SasyServer.Pbcc
