import SasyServer.ChatSocket

/-!
# `l_parsepacket` of the chat server

`chat_room/lualib-src/lua-parsedata.c`: whether a string starts with a packet, and the strings it is cut into. The `len` of
the header is an `int` of the sender, the size of the header is a `size_t`, and their sum is narrowed to an `int` again, as
in `packSize`. The argument `id`, which is handed back, is left out.
-/

namespace SasyServer.ParseData

open ChatSocket (headerSize readInt packSize)

/-- A string that is pushed: where it starts in the buffer, and its length as it is given. -/
structure Segment where
  start : Int
  length : Int
  deriving DecidableEq, Repr

/-- What `l_parsepacket` pushes. `reads` is not in the code: the bytes of the header that are read. -/
structure Parsed where
  err : Nat
  sz : Int
  packet : Segment
  left : Int
  remain : Segment
  reads : Option Segment
  deriving DecidableEq, Repr

/-- A number as an `int`. -/
def toInt (n : Int) : Int := n.bmod (2 ^ 32)

/-- `l_parsepacket`. A negative `sz` is a large `size_t` where it is compared with the size of the header. -/
def parsepacket (buffer : List UInt8) : Parsed :=
  let sz := toInt buffer.length
  let complete := sz < 0 ∨ (headerSize : Int) ≤ sz
  let len := if complete then packSize buffer else 0
  let err := if complete ∧ sz ≥ len then 1 else 0
  ⟨err, sz, ⟨0, len⟩, toInt (sz - len), ⟨sz, toInt (sz - len)⟩, if complete then some ⟨8, 4⟩ else none⟩

/-! ## What is to be returned -/

/-- The bytes of a string that lies in the buffer. -/
def Segment.bytes (s : Segment) (buffer : List UInt8) : List UInt8 := (buffer.drop s.start.toNat).take s.length.toNat

/-- A string lies in the buffer. An empty one has no bytes to read. -/
def Segment.Within (s : Segment) (buffer : List UInt8) : Prop :=
  0 ≤ s.length ∧ (s.length ≠ 0 → 0 ≤ s.start ∧ s.start + s.length ≤ buffer.length)

/-- The buffer starts with a complete packet. -/
def startsWithPacket (buffer : List UInt8) : Prop :=
  headerSize ≤ buffer.length ∧ 0 ≤ readInt buffer 8 ∧ headerSize + readInt buffer 8 ≤ buffer.length

/-- What is returned is right: the flag, the two strings of a packet and what comes after it, the bytes that
are read and the lengths. -/
structure Right (buffer : List UInt8) (p : Parsed) : Prop where
  err_iff : p.err = 1 ↔ startsWithPacket buffer
  whole : p.err = 1 → p.packet.bytes buffer ++ p.remain.bytes buffer = buffer
  packet : p.packet.Within buffer
  remain : p.remain.Within buffer
  reads : ∀ s, p.reads = some s → s.Within buffer
  sz : 0 ≤ p.sz
  left : 0 ≤ p.left

end SasyServer.ParseData
