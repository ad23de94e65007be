import SasyServer.Lib.ChainTable
import SasyServer.Lib.RingBuffer
import SasyServer.Pbcc

/-!
# The packets of a TCP socket

`skynet/lualib-src/lua-netpack.c`, which the gate server of `service/tcpGateway.lua` reads its sockets with: the
queue of packets that are complete, and the table of connections with a packet that is not. The first stack slot of
the Lua state, which holds the queue once there is one, is an `Option Queue`, and an entry's `pack.buffer` holds the
bytes copied to it so far.

The functions read the chunk through a pointer. `none` is a read past its end.
-/

namespace SasyServer.Netpack

open Pbcc (readSize)

/-- `QUEUESIZE`. -/
def queueSize : Nat := 1024

/-- `HASHSIZE`. -/
def hashSize : Nat := 4096

/-- `struct netpack`. -/
structure NetPack where
  id : Nat
  size : Nat
  buffer : List UInt8
  deriving DecidableEq, Repr, Inhabited

/-- `struct uncomplete`, without `next`. `read` is -1 while only the first byte of the header is
there, which is in `header`. -/
structure Uncomplete where
  pack : NetPack
  read : Int
  header : UInt8
  deriving DecidableEq, Repr

/-- The key of an entry. -/
def Uncomplete.fd (uc : Uncomplete) : Nat := uc.pack.id

/-- `struct queue`. -/
structure Queue extends RingBuffer NetPack where
  hash : Nat → List Uncomplete

/-- What `filter_data_` returns, by the number of values: nothing more, a packet, or that there are packets in the queue. -/
inductive Result where
  | none
  | data (fd : Nat) (buffer : List UInt8) (size : Nat)
  | more
  deriving DecidableEq, Repr

/-- `hash_fd`. -/
def hashFd (fd : Nat) : Nat := ((fd >>> 24) + (fd >>> 12) + fd) % hashSize

/-- `find_uncomplete`. -/
def findUncomplete (L : Option Queue) (fd : Nat) : Option (Uncomplete × Queue) :=
  L.bind fun q => (ChainTable.find Uncomplete.fd hashFd q.hash fd).map fun p => (p.1, { q with hash := p.2 })

/-- `get_queue`. -/
def getQueue : Option Queue → Queue
  | some q => q
  | none => { cap := queueSize, head := 0, tail := 0, queue := fun _ => default, hash := fun _ => [] }

/-- `push_data`, with `expand_queue`, which copies the table as it is. -/
def pushData (L : Option Queue) (fd : Nat) (buffer : List UInt8) (size : Nat) : Queue :=
  { (getQueue L).toRingBuffer.push queueSize ⟨fd, size, buffer⟩ with hash := (getQueue L).hash }

/-- `save_uncomplete`, with what its callers store in the entry. -/
def saveUncomplete (L : Option Queue) (uc : Uncomplete) : Queue :=
  { getQueue L with hash := ChainTable.save Uncomplete.fd hashFd (getQueue L).hash uc }

/-- `close_uncomplete`. -/
def closeUncomplete (L : Option Queue) (fd : Nat) : Option Queue :=
  match findUncomplete L fd with
  | some (_, q) => some q
  | none => L

/-- `lpop`. -/
def lpop (L : Option Queue) : Option (NetPack × Option Queue) :=
  L.bind fun q => q.toRingBuffer.pop.map fun p => (p.1, some { p.2 with hash := q.hash })

/-- `push_more`. -/
def pushMore (L : Option Queue) (fd : Nat) (buffer : List UInt8) : Option (Option Queue) :=
  match buffer with
  | [] => none
  | [b] => some (some (saveUncomplete L ⟨⟨fd, 0, []⟩, -1, b⟩))
  | b0 :: b1 :: rest =>
    let packSize := readSize (b0 :: b1 :: rest)
    if rest.length < packSize then some (some (saveUncomplete L ⟨⟨fd, packSize, rest⟩, rest.length, 0⟩))
    else
      let L := some (pushData L fd (rest.take packSize) packSize)
      if 0 < (rest.drop packSize).length then pushMore L fd (rest.drop packSize) else some L
termination_by buffer.length
decreasing_by
  rw [List.length_drop, List.length_cons, List.length_cons]
  omega

/-- The part of `filter_data_` that completes a packet whose size is known. -/
def fillPack (q : Queue) (fd : Nat) (uc : Uncomplete) (buffer : List UInt8) : Option (Option Queue × Result) :=
  let need := uc.pack.size - uc.read
  if buffer.length < need then
    some (some (saveUncomplete (some q)
      { uc with pack := { uc.pack with buffer := uc.pack.buffer ++ buffer }, read := uc.read + buffer.length }), .none)
  else
    let pack := { uc.pack with buffer := uc.pack.buffer ++ buffer.take need.toNat }
    let rest := buffer.drop need.toNat
    if rest.length = 0 then some (some q, .data fd pack.buffer pack.size)
    else (pushMore (some (pushData (some q) fd pack.buffer pack.size)) fd rest).map fun L => (L, .more)

/-- `filter_data_` for a connection with an entry. -/
def filterUncomplete (q : Queue) (fd : Nat) (uc : Uncomplete) (buffer : List UInt8) : Option (Option Queue × Result) :=
  if uc.read < 0 then
    match buffer with
    | [] => none
    | b :: buffer => fillPack q fd { uc with pack := ⟨uc.pack.id, readSize [uc.header, b], []⟩, read := 0 } buffer
  else fillPack q fd uc buffer

/-- `filter_data_` for a connection without one. -/
def filterFresh (L : Option Queue) (fd : Nat) (buffer : List UInt8) : Option (Option Queue × Result) :=
  match buffer with
  | [] => none
  | [b] => some (some (saveUncomplete L ⟨⟨fd, 0, []⟩, -1, b⟩), .none)
  | b0 :: b1 :: rest =>
    let packSize := readSize (b0 :: b1 :: rest)
    if rest.length < packSize then some (some (saveUncomplete L ⟨⟨fd, packSize, rest⟩, rest.length, 0⟩), .none)
    else if rest.length = packSize then some (L, .data fd rest rest.length)
    else (pushMore (some (pushData L fd (rest.take packSize) packSize)) fd (rest.drop packSize)).map fun L => (L, .more)

/-- `filter_data_`. -/
def filterData (L : Option Queue) (fd : Nat) (buffer : List UInt8) : Option (Option Queue × Result) :=
  match findUncomplete L fd with
  | some (uc, q) => filterUncomplete q fd uc buffer
  | none => filterFresh L fd buffer

/-- `struct skynet_socket_message`, by its type. -/
inductive SocketMessage where
  | data (id : Nat) (buffer : List UInt8)
  | connect (id : Nat)
  | close (id : Nat)
  | accept (id ud : Nat)
  | error (id : Nat)
  | warning (id ud : Nat)
  deriving DecidableEq, Repr

/-- The type `lfilter` pushes and the values after it. -/
inductive Filtered where
  | none
  | data (fd : Nat) (buffer : List UInt8) (size : Nat)
  | more
  | error (fd : Nat)
  | opened (fd : Nat)
  | close (fd : Nat)
  | warning (fd size : Nat)
  deriving DecidableEq, Repr

/-- The values of `filter_data_` as values of `lfilter`. -/
def Result.filtered : Result → Filtered
  | .none => .none
  | .data fd buffer size => .data fd buffer size
  | .more => .more

/-- `lfilter`. -/
def lfilter (L : Option Queue) : SocketMessage → Option (Option Queue × Filtered)
  | .data id buffer => (filterData L id buffer).map fun p => (p.1, p.2.filtered)
  | .connect _ => some (L, .none)
  | .close id => some (closeUncomplete L id, .close id)
  | .accept _ ud => some (L, .opened ud)
  | .error id => some (closeUncomplete L id, .error id)
  | .warning id ud => some (L, .warning id ud)

end SasyServer.Netpack
