import SasyServer.Websocket.Frames

/-!
# `lpack`: a payload in a frame of the server

`luaclib-src/lua-websocketnetpack.c`, lines 818 to 865: a text frame with FIN and without a mask. The length of a string fits
its `size_t`, so the macro that picks a byte of it is that of a number.
-/

namespace SasyServer.Websocket

def frameSetFin (byte : UInt8) : UInt8 := (byte &&& 0x01) <<< 7
def frameSetOpcode (byte : UInt8) : UInt8 := byte &&& 0x0F
def frameSetMask (byte : UInt8) : UInt8 := (byte &&& 0x01) <<< 7
def frameSetLength (x64 idx : Nat) : UInt8 := UInt8.ofNat ((x64 >>> (idx * 8)) &&& 0xFF)

/-- `frame_header`. -/
def frameHeader (len : Nat) : List UInt8 :=
  [frameSetFin 1 ||| frameSetOpcode 1] ++
    if len < 126 then [frameSetMask 0 ||| frameSetLength len 0]
    else
      (if len < 65536 then [frameSetMask 0 ||| 126]
        else [frameSetMask 0 ||| 127, frameSetLength len 7, frameSetLength len 6, frameSetLength len 5, frameSetLength len 4,
          frameSetLength len 3, frameSetLength len 2]) ++
        [frameSetLength len 1, frameSetLength len 0]

/-- `lpack`. -/
def lpack (ptr : List UInt8) : List UInt8 := frameHeader ptr.length ++ ptr

/-- The header of a frame without a mask in one of the three encodings, in bytes. -/
def LengthEncoding.size : LengthEncoding → Nat
  | .short => 2
  | .ext16 => 4
  | .ext64 => 10

/-- The lengths an encoding can hold. -/
def LengthEncoding.holds : LengthEncoding → Nat → Bool
  | .short, n => n ≤ 125
  | .ext16, n => n < 2 ^ 16
  | .ext64, n => n < 2 ^ 64

end SasyServer.Websocket
