import Mathlib.Algebra.Ring.Int.Defs
import SasyServer.Lib.Steps

/-!
# The socket buffer of the chat server

`chat_room/lualib-src/lua-socket.c`: `lpushbuffer`, which hangs the bytes of a message of the socket as a node at the end of
a buffer, and `lreadall_chat`, which copies the nodes into a buffer of its own until that has a packet.

What C leaves undefined is the error `Fault.memory`: a copy past the end of the local buffer or from outside of a node, an
overflow of `size`. A loop that never ends is `Fault.endless`. The pool of free nodes is left out, and so is what the local
buffer has beyond its first `size` bytes, which are zeros.
-/

namespace SasyServer.ChatSocket

/-- What goes wrong in a call. -/
inductive Fault where
  | memory | endless
  deriving DecidableEq, Repr

/-- `struct socket_buffer`; of the nodes, their bytes. -/
structure SocketBuffer where
  size : Int
  offset : Int
  nodes : List (List UInt8)
  deriving DecidableEq, Repr

/-- `lnewbuffer`. -/
def lnewbuffer : SocketBuffer := ⟨0, 0, []⟩

/-- The bytes of the buffer that have not been read. -/
def SocketBuffer.unread (sb : SocketBuffer) : List UInt8 := sb.nodes.flatten.drop sb.offset.toNat

/-- `lpushbuffer`. -/
def lpushbuffer (sb : SocketBuffer) (msg : List UInt8) : Except Fault SocketBuffer :=
  if sb.size + msg.length < 0x80000000 then .ok { sb with size := sb.size + msg.length, nodes := sb.nodes ++ [msg] }
  else .error .memory

/-- `return_free_node`. -/
def returnFreeNode (sb : SocketBuffer) : SocketBuffer := { sb with offset := 0, nodes := sb.nodes.tail }

/-- `sizeof(struct packet_header)` and `sizeof(buffer)`. -/
def headerSize : Nat := 12
def bufferSize : Nat := 2048 + 12

/-- A byte of the local buffer. -/
def byteAt (buffer : List UInt8) (i : Nat) : Int := (buffer.getD i 0).toNat

/-- The `int` at a position of the local buffer. -/
def readInt (buffer : List UInt8) (i : Nat) : Int :=
  (byteAt buffer i + byteAt buffer (i + 1) * 0x100 + byteAt buffer (i + 2) * 0x10000 + byteAt buffer (i + 3) *
    0x1000000).bmod 0x100000000

/-- `pack_size`, of the header in the local buffer. -/
def packSize (buffer : List UInt8) : Int := (headerSize + readInt buffer 8).bmod 0x100000000

/-- The variables of the loop; `size` is the length of what has been copied. -/
structure Loop where
  sb : SocketBuffer
  buffer : List UInt8
  deriving DecidableEq, Repr

/-- One turn of the loop, and whether it is the last one. -/
def Loop.turn (l : Loop) : Except Fault (Loop × Bool) :=
  match l.sb.nodes with
  | [] => .ok (l, true)
  | msg :: _ =>
    if l.sb.offset < 0 ∨ msg.length < l.sb.offset then .error .memory
    else
      let buffer := l.buffer ++ msg.drop l.sb.offset.toNat
      let size := buffer.length
      if bufferSize < size then .error .memory
      else if headerSize ≤ size then
        if packSize buffer > size then .ok (⟨returnFreeNode l.sb, buffer⟩, false)
        else if packSize buffer = size then .ok (⟨returnFreeNode l.sb, buffer⟩, true)
        else if packSize buffer < 0 then .error .memory
        else
          .ok (⟨{ l.sb with offset := l.sb.offset + (packSize buffer - l.buffer.length) },
            buffer.take (packSize buffer).toNat⟩, true)
      else
        -- the node stays the first one, and is copied again
        .ok (⟨l.sb, buffer⟩, false)

/-- The loop, up to `n` turns. -/
def Loop.run : Nat → Loop → Except Fault Loop
  | 0, _ => .error .endless
  | n + 1, l =>
    match l.turn with
    | .error e => .error e
    | .ok (l, true) => .ok l
    | .ok (l, false) => run n l

/-- What `lreadall_chat` returns. -/
structure Chat where
  size : Int
  uin : Int
  cmd : Int
  len : Int
  msg : List UInt8
  deriving DecidableEq, Repr

/-- `lreadall_chat`. A turn of the loop takes a node away or adds to a header that is not complete,
or the loop never ends. -/
def lreadallChat (sb : SocketBuffer) : Except Fault (Chat × SocketBuffer) :=
  match (Loop.mk sb []).run (sb.nodes.length + headerSize + 1) with
  | .error e => .error e
  | .ok l =>
    let len := readInt l.buffer 8
    if len < 0 ∨ bufferSize - headerSize < len then .error .memory
    else
      let msg := (l.buffer.drop headerSize ++ List.replicate (bufferSize - headerSize) 0).take len.toNat
      .ok (⟨l.buffer.length, readInt l.buffer 0, readInt l.buffer 4, len, msg⟩,
        { l.sb with size := l.sb.size - l.buffer.length })

/-! ## A connection -/

/-- A call of `lreadall_chat`: what there was to read, what it has returned, and what is left. -/
structure Call where
  before : List UInt8
  chat : Chat
  after : List UInt8
  deriving DecidableEq, Repr

/-- The buffer of a connection, the bytes that have come and the calls that have returned. -/
structure Socket where
  buffer : SocketBuffer
  received : List UInt8
  calls : List Call
  deriving DecidableEq, Repr

def Socket.init : Socket := ⟨lnewbuffer, [], []⟩

/-- The calls that report a packet, as `read_chat` of `chat_socket.lua` tells it. -/
def Socket.reports (s : Socket) : List Chat := (s.calls.map Call.chat).filter fun c => c.size ≠ 0

/-- Bytes come, or the packets are read. -/
inductive Label where
  | push (msg : List UInt8)
  | read
  deriving DecidableEq, Repr

/-- One label; one that ends in a fault is refused. -/
def step (s : Socket) : Label → Option Socket
  | .push msg =>
    match lpushbuffer s.buffer msg with
    | .ok buffer => some { s with buffer := buffer, received := s.received ++ msg }
    | .error _ => none
  | .read =>
    match lreadallChat s.buffer with
    | .ok (chat, buffer) => some { s with buffer := buffer, calls := s.calls ++ [⟨s.buffer.unread, chat, buffer.unread⟩] }
    | .error _ => none

end SasyServer.ChatSocket
