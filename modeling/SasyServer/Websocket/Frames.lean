import SasyServer.Websocket.Filter

/-!
# Client frames, and the gate that feeds the filter

What a well-behaved client sends past the handshake: frames with FIN set, no RSV bit, an opcode that is neither 0 (a
fragment) nor 8 (close), and a payload of at most `MAX_PACKSIZE` bytes, whose length stands in any of the three encodings
that can hold it, masked or not. `Frame` carries these conditions, so that a frame is well formed by being one.

The gate hands every chunk of bytes a socket gives it to `filterData` and, on the answer `more`, takes the queue apart with
`lpop` until it is empty (`lualib/utility/gateserver_ws.lua`, `dispatch_queue`). `feed` is that for one chunk and `run` for a
sequence of chunks of any number of connections.
-/

namespace SasyServer.Websocket

/-- Where the payload length stands: in the second byte, in the two bytes after it, or in the eight bytes after it. -/
inductive LengthEncoding where
  | short | ext16 | ext64
  deriving DecidableEq, Repr

/-- A well-formed data frame of a client. `payload` is the payload before masking. -/
structure Frame where
  opcode : Fin 16
  encoding : LengthEncoding
  mask : Option Mask
  payload : List UInt8
  opcode_ok : opcode ≠ 0 ∧ opcode ≠ 8
  length_ok : payload.length ≤ maxPackSize
  encoding_ok : encoding = .short → payload.length ≤ 125

/-- A number as `k` bytes, the highest first. -/
def bigEndian : Nat → Nat → List UInt8
  | 0, _ => []
  | k + 1, n => bigEndian k (n / 2 ^ 8) ++ [UInt8.ofNat n]

/-- The first byte of a frame: FIN, no RSV bit, and the opcode. -/
def firstByte (opcode : Fin 16) : UInt8 := UInt8.ofNat (128 + opcode.val)

/-- The second byte of a frame: the mask bit and seven bits of length. -/
def secondByte (masked : Bool) (len : Fin 128) : UInt8 := UInt8.ofNat (128 * masked.toNat + len.val)

/-- The seven bits of length: the length itself, or the code of the encoding. -/
def Frame.len7 (f : Frame) : Fin 128 :=
  match f.encoding with
  | .short => Fin.ofNat 128 f.payload.length
  | .ext16 => 126
  | .ext64 => 127

/-- The length bytes after the first two. -/
def Frame.extended (f : Frame) : List UInt8 :=
  match f.encoding with
  | .short => []
  | .ext16 => bigEndian 2 f.payload.length
  | .ext64 => bigEndian 8 f.payload.length

/-- The mask key as it stands in the header. -/
def Frame.key (f : Frame) : List UInt8 := (f.mask.map Mask.bytes).getD []

/-- The header of a frame. -/
def Frame.header (f : Frame) : List UInt8 :=
  firstByte f.opcode :: secondByte f.mask.isSome f.len7 :: (f.extended ++ f.key)

/-- A payload under a mask: the `i`-th byte with the `i`-th byte of the key, counted round. -/
def applyMask (m : Option Mask) (payload : List UInt8) : List UInt8 :=
  match m with
  | some m => payload.mapIdx fun i b => b ^^^ m.byte i
  | none => payload

/-- The bytes of a frame on the wire. -/
def Frame.bytes (f : Frame) : List UInt8 := f.header ++ applyMask f.mask f.payload

/-- The bytes of a sequence of frames. -/
def bytesOf (fs : List Frame) : List UInt8 := fs.flatMap Frame.bytes

/-- The frames that are complete in the first `n` bytes of their stream. -/
def completeFrames : List Frame → Nat → List Frame
  | [], _ => []
  | f :: fs, n => if f.bytes.length ≤ n then f :: completeFrames fs (n - f.bytes.length) else []

/-- A chunk of bytes from a socket, and whether its connection is still in the handshake. -/
structure Chunk where
  fd : Nat
  bytes : List UInt8
  handeshake : Bool
  deriving DecidableEq, Repr

/-- What the gate gets for a connection: a packet or a close. -/
inductive Out where
  | data (fd : Nat) (payload : List UInt8) (size : Int)
  | wsclose (fd : Nat)
  deriving DecidableEq, Repr

/-- The connection an output is for. -/
def Out.fd : Out → Nat
  | .data fd _ _ => fd
  | .wsclose fd => fd

/-- The output for a packet of the queue. -/
def NetPack.out (p : NetPack) : Out := .data p.id p.buffer p.size

/-- Pop at most `n` packets. -/
def popAll : Nat → Option Queue → List NetPack × Option Queue
  | 0, L => ([], L)
  | n + 1, L =>
    match lpop L with
    | none => ([], L)
    | some (p, L') => (p :: (popAll n L').1, (popAll n L').2)

/-- The most packets a queue can hold. -/
def capacity : Option Queue → Nat
  | some q => q.cap
  | none => 0

/-- One chunk: the filter, and on `more` the packets of the queue until it is empty. -/
def feed (L : Option Queue) (c : Chunk) : Except Fault (Option Queue × List Out) :=
  (filterData L c.fd c.bytes c.handeshake).map fun p =>
    match p.2 with
    | .none => (p.1, [])
    | .data fd buffer size => (p.1, [.data fd buffer size])
    | .more => ((popAll (capacity p.1) p.1).2, (popAll (capacity p.1) p.1).1.map NetPack.out)
    | .wsclose fd => (p.1, [.wsclose fd])

/-- A sequence of chunks, as long as no call faults. -/
def run : Option Queue → List Chunk → Except Fault (Option Queue × List Out)
  | L, [] => .ok (L, [])
  | L, c :: cs => (feed L c).bind fun p => (run p.1 cs).map fun r => (r.1, p.2 ++ r.2)

/-- The bytes of one connection in a sequence of chunks. -/
def streamOf (fd : Nat) (cs : List Chunk) : List UInt8 := (cs.filter fun c => c.fd = fd).flatMap Chunk.bytes

/-- The outputs for one connection. -/
def outsOf (fd : Nat) (os : List Out) : List Out := os.filter fun o => o.fd = fd

/-- The output a frame is to lead to. -/
def Frame.out (fd : Nat) (f : Frame) : Out := .data fd f.payload f.payload.length

/-- The connections of `G` send non-empty chunks past the handshake, which put together are the beginning of the connection's
frames. -/
structure WellFed (G : Nat → Prop) (frames : Nat → List Frame) (cs : List Chunk) : Prop where
  chunk : ∀ c ∈ cs, G c.fd → c.bytes ≠ [] ∧ c.handeshake = false
  stream : ∀ fd, G fd → streamOf fd cs <+: bytesOf (frames fd)

end SasyServer.Websocket
