import SasyServer.Lib.RingBuffer
import SasyServer.Websocket.ReadSize

/-!
# The packet queue and `filterData`

`luaclib-src/lua-websocketnetpack.c`, lines 29 to 54, 125 to 223 and 349 to 693, and `lpop`. The first stack slot of the
Lua state, which holds the queue once there is one, is an `Option Queue`. A chain of `uncomplete` entries linked by `next`
is the list of its entries, and an entry's `header` and `pack.buffer` hold the bytes written to them so far, so
`header_size` is the length of the first.

Two things end the process, or its defined behaviour, and are a `Fault` here: a call of `skynet_malloc` with a negative size
(the size becomes a huge `size_t`, and the allocator aborts) and a write past `header[HEADERSIZE]`.
-/

namespace SasyServer.Websocket

/-- `struct netpack`. -/
structure NetPack where
  id : Nat
  size : Int
  buffer : List UInt8
  deriving DecidableEq, Repr, Inhabited

/-- `struct uncomplete`, without `next`. `read` is -1 while the header is being collected. -/
structure Uncomplete where
  pack : NetPack
  header : List UInt8
  read : Int
  mask : Mask
  ismask : Bool
  hasunmaskSize : Nat
  deriving DecidableEq, Repr

/-- `struct queue`: the ring of packets and the table of connections with an unfinished packet. -/
structure Queue extends RingBuffer NetPack where
  hash : Nat → List Uncomplete

/-- What ends the process or its defined behaviour. -/
inductive Fault where
  | malloc (size : Int)
  | headerOverflow
  deriving DecidableEq, Repr

/-- The answers of `filter_data_`, by the literals pushed: nothing (1 value), data (5), more (2) and wsclose (3). -/
inductive Result where
  | none
  | data (fd : Nat) (buffer : List UInt8) (size : Int)
  | more
  | wsclose (fd : Nat)
  deriving DecidableEq, Repr

/-- `hash_fd`. -/
def hashFd (fd : Nat) : Nat := ((fd >>> 24) + (fd >>> 12) + fd) % hashSize

/-- The walk along one chain: the first entry of the fd, and the chain without it. -/
def unlink (fd : Nat) : List Uncomplete → Option (Uncomplete × List Uncomplete)
  | [] => none
  | uc :: next => if uc.pack.id = fd then some (uc, next) else (unlink fd next).map fun p => (p.1, uc :: p.2)

/-- `find_uncomplete`: the entry of the fd, taken out of the table. -/
def findUncomplete (L : Option Queue) (fd : Nat) : Option (Uncomplete × Queue) :=
  L.bind fun q => (unlink fd (q.hash (hashFd fd))).map fun p =>
    (p.1, { q with hash := Function.update q.hash (hashFd fd) p.2 })

/-- `get_queue`. -/
def getQueue : Option Queue → Queue
  | some q => q
  | none => { cap := queueSize, head := 0, tail := 0, queue := fun _ => default, hash := fun _ => [] }

/-- `push_data`, after the copy: the packet goes into the ring, which grows with `expand_queue` when it is full. The table of
unfinished packets is carried over. -/
def pushData (L : Option Queue) (fd : Nat) (buffer : List UInt8) (size : Int) : Queue :=
  { (getQueue L).toRingBuffer.push queueSize ⟨fd, size, buffer⟩ with hash := (getQueue L).hash }

/-- `save_uncomplete`, with what its callers then store in the entry; also the last lines of the branches of `filter_data_`
that put an entry back. -/
def saveUncomplete (L : Option Queue) (uc : Uncomplete) : Queue :=
  { getQueue L with
    hash := Function.update (getQueue L).hash (hashFd uc.pack.id) (uc :: (getQueue L).hash (hashFd uc.pack.id)) }

/-- `close_uncomplete`. -/
def closeUncomplete (L : Option Queue) (fd : Nat) : Option Queue :=
  match findUncomplete L fd with
  | some (_, q) => some q
  | none => L

/-- `lpop`. -/
def lpop (L : Option Queue) : Option (NetPack × Option Queue) :=
  L.bind fun q => q.toRingBuffer.pop.map fun p => (p.1, some { p.2 with hash := q.hash })

/-- `websocket_strnpos`, from position `i` on. -/
def websocketStrnpos (needle : List UInt8) : List UInt8 → Nat → Int
  | [], _ => -1
  | b :: haystack, i => if needle.isPrefixOf (b :: haystack) then i else websocketStrnpos needle haystack (i + 1)

/-- `get_http_header`: -1, or the length of the header with its CRLFCRLF. -/
def getHttpHeader (buffer : List UInt8) : Int :=
  let n := websocketStrnpos [13, 10, 13, 10] buffer 0
  if n < 0 then n else n + 4

/-- The first lines of `push_more` and of the second half of `filter_data_`: the packet's size, the frame header, and the
buffer after the bytes thrown away. -/
def nextPack (buffer : List UInt8) (handeshake : Bool) : Int × Head × List UInt8 :=
  if handeshake then (getHttpHeader buffer, Head.init, buffer)
  else (clampSize (readFrameSize buffer).1, (readFrameSize buffer).2)

/-- A header that is not complete is kept in a new entry. In the handshake only the first `HEADERSIZE` bytes are; a frame's
are copied whatever their number. -/
def saveHeader (L : Option Queue) (fd : Nat) (buffer : List UInt8) (handeshake : Bool) : Except Fault (Option Queue) :=
  let uc : Uncomplete := ⟨⟨fd, 0, []⟩, buffer, -1, Mask.zero, false, 0⟩
  if handeshake ∧ buffer.length > headerSize then .ok (some (saveUncomplete L { uc with header := buffer.take headerSize }))
  else if buffer.length > headerSize then .error .headerOverflow
  else .ok (some (saveUncomplete L uc))

/-- A payload that is not complete is kept, unmasked as far as it goes, in a new entry. -/
def savePayload (L : Option Queue) (fd : Nat) (packSize : Int) (head : Head) (buffer : List UInt8) : Option Queue :=
  let d := decodeWsmaskData buffer head.mask head.ismask 0
  some (saveUncomplete L ⟨⟨fd, packSize, d.1⟩, [], buffer.length, head.mask, head.ismask, d.2⟩)

/-! ## Termination of `pushMore`: a packet that is taken leaves fewer bytes than there were -/

/-- A header that was read is as long as the offset of its mask key. -/
theorem le_packHeadLength_of_readMask {packSize : Int} {offset : Nat} {isMask : UInt8} {buffer : List UInt8}
    (h : 0 ≤ (readMask packSize offset isMask buffer).1) :
    offset ≤ (readMask packSize offset isMask buffer).2.packHeadLength := by
  unfold readMask at h ⊢
  split
  · split
    · exact Nat.le_add_right _ _
    · rename_i hm _ hne
      rw [if_pos hm] at h
      split at h
      · rename_i he
        exact absurd he (hne _ _ _ _ _)
      · simp at h
  · exact Nat.le_refl _

/-- A frame header that was read is at least two bytes long. -/
theorem two_le_packHeadLength_of_readSize {buffer : List UInt8} (h : 0 ≤ (readSize buffer).1) :
    2 ≤ (readSize buffer).2.packHeadLength := by
  unfold readSize at h ⊢
  split at h
  · simp only at h ⊢
    split_ifs at h ⊢
    · simp at h
    · simp at h
    · simp at h
    · exact le_packHeadLength_of_readMask h
    · split at h
      · exact Nat.le_trans (by decide) (le_packHeadLength_of_readMask h)
      · simp at h
    · split at h
      · exact Nat.le_trans (by decide) (le_packHeadLength_of_readMask h)
      · simp at h
  · simp at h

/-- What the loop around `readSize` leaves is a suffix of the buffer, and what it answers is `readSize` of it. -/
theorem readFrameSize_spec (buffer : List UInt8) :
    (readFrameSize buffer).2.2.length ≤ buffer.length ∧
      readSize (readFrameSize buffer).2.2 = ((readFrameSize buffer).1, (readFrameSize buffer).2.1) := by
  fun_induction readFrameSize buffer with
  | case1 b0 b1 rest h hh ih => exact ⟨by simp only [List.length_cons]; omega, ih.2⟩
  | case2 b0 b1 rest n h hr hn => exact ⟨Nat.le_refl _, hr⟩
  | case3 buffer h => exact ⟨Nat.le_refl _, rfl⟩

/-- A buffer with a complete frame header holds at least two bytes. -/
theorem two_le_length_of_readSize {buffer : List UInt8} (h : 0 ≤ (readSize buffer).1) : 2 ≤ buffer.length := by
  unfold readSize at h
  split at h
  · simp
  · simp at h

/-- The position found by `websocketStrnpos` is not negative only in a buffer that is not empty. -/
theorem length_pos_of_getHttpHeader {buffer : List UInt8} (h : 0 ≤ getHttpHeader buffer) : 0 < buffer.length := by
  cases buffer with
  | nil => simp [getHttpHeader, websocketStrnpos] at h
  | cons b buffer => simp

theorem four_le_of_getHttpHeader {buffer : List UInt8} (h : 0 ≤ getHttpHeader buffer) : 4 ≤ getHttpHeader buffer := by
  unfold getHttpHeader at h ⊢
  simp only at h ⊢
  split_ifs at h ⊢ <;> omega

/-- A packet that is taken leaves fewer bytes than there were. -/
theorem nextPack_lt {buffer : List UInt8} {handeshake : Bool} (h : 0 ≤ (nextPack buffer handeshake).1) :
    (((nextPack buffer handeshake).2.2.drop (nextPack buffer handeshake).2.1.packHeadLength).drop
      (nextPack buffer handeshake).1.toNat).length < buffer.length := by
  cases handeshake with
  | true =>
    simp only [nextPack, if_true] at h ⊢
    have h1 := length_pos_of_getHttpHeader h
    have h2 := four_le_of_getHttpHeader h
    simp only [List.length_drop, Head.init]
    omega
  | false =>
    simp only [nextPack, Bool.false_eq_true, if_false] at h ⊢
    obtain ⟨h1, h2⟩ := readFrameSize_spec buffer
    have h3 : 0 ≤ (readSize (readFrameSize buffer).2.2).1 := by
      rw [h2]
      unfold clampSize at h
      split_ifs at h <;> simp only [maxPackSize] at * <;> omega
    have h4 := two_le_packHeadLength_of_readSize h3
    have h5 := two_le_length_of_readSize h3
    rw [h2] at h4
    simp only [List.length_drop]
    simp only at h4
    omega

/-! ## `pushMore` and `filterData` -/

/-- `push_more`. A size of -3 is not tested for: it reaches `skynet_malloc`. -/
def pushMore (L : Option Queue) (fd : Nat) (buffer : List UInt8) (handeshake : Bool) : Except Fault (Option Queue) :=
  let p := nextPack buffer handeshake
  let packSize := p.1
  let head := p.2.1
  if packSize = -1 then saveHeader L fd p.2.2 handeshake
  else
    let buffer' := p.2.2.drop head.packHeadLength
    if buffer'.length < packSize ∧ ¬handeshake then .ok (savePayload L fd packSize head buffer')
    else if _hneg : packSize < 0 then .error (.malloc packSize)
    else
      let d := decodeWsmaskData (buffer'.take packSize.toNat) head.mask head.ismask 0
      let L' := some (pushData L fd d.1 packSize)
      let rest := buffer'.drop packSize.toNat
      if rest.length > 0 then pushMore L' fd rest handeshake else .ok L'
termination_by buffer.length
decreasing_by exact nextPack_lt (Int.not_lt.mp _hneg)

/-- The loop of `filter_data_` that moves bytes to `uc->header`, one at a time, until the size is known or the
bytes are used up. An empty buffer leaves `pack_size` at 0. The components are the size, the frame header,
`uc->header` and the bytes left. -/
def fillHeader (handeshake : Bool) : List UInt8 → List UInt8 → Except Fault (Int × Head × List UInt8 × List UInt8)
  | header, [] => .ok (0, Head.init, header, [])
  | header, b :: buffer =>
    if header.length ≥ headerSize then .error .headerOverflow
    else
      let p :=
        if handeshake ∧ (header ++ [b]).length > headerSize then
          ((headerSize : Int), Head.init, (header ++ [b]).take headerSize)
        else nextPack (header ++ [b]) handeshake
      if p.1 ≥ 0 ∨ buffer = [] then .ok (p.1, p.2.1, p.2.2, buffer) else fillHeader handeshake p.2.2 buffer

/-- The part of `filter_data_` that completes a packet whose size is known. -/
def fillPack (q : Queue) (fd : Nat) (uc : Uncomplete) (buffer : List UInt8) (handeshake : Bool) :
    Except Fault (Option Queue × Result) :=
  let need := uc.pack.size - uc.read
  if buffer.length < need then
    let d := decodeWsmaskData buffer uc.mask uc.ismask uc.hasunmaskSize
    .ok (some (saveUncomplete (some q)
      { uc with
        pack := { uc.pack with buffer := uc.pack.buffer ++ d.1 }
        read := uc.read + buffer.length
        hasunmaskSize := d.2 }), .none)
  else
    let d := decodeWsmaskData (buffer.take need.toNat) uc.mask uc.ismask uc.hasunmaskSize
    let rest := buffer.drop need.toNat
    if rest.length = 0 then .ok (some q, .data fd (uc.pack.buffer ++ d.1) uc.pack.size)
    else (pushMore (some (pushData (some q) fd (uc.pack.buffer ++ d.1) uc.pack.size)) fd rest handeshake).map
      fun L => (L, .more)

/-- `filter_data_` for a connection with an unfinished packet. -/
def filterUncomplete (q : Queue) (fd : Nat) (uc : Uncomplete) (buffer : List UInt8) (handeshake : Bool) :
    Except Fault (Option Queue × Result) :=
  if uc.read < 0 then
    (fillHeader handeshake uc.header buffer).bind fun p =>
      let packSize := p.1
      let head := p.2.1
      let header := p.2.2.1
      if packSize = -1 then .ok (some (saveUncomplete (some q) { uc with header := header }), .none)
      else if packSize = -3 then .ok (closeUncomplete (some q) fd, .wsclose fd)
      else if packSize < 0 then .error (.malloc packSize)
      else
        let read : Int := if handeshake then min header.length packSize else 0
        fillPack q fd
          { uc with
            pack := { uc.pack with size := packSize, buffer := header.take read.toNat }
            header := header
            read := read
            mask := head.mask
            ismask := head.ismask
            hasunmaskSize := 0 } p.2.2.2 handeshake
  else fillPack q fd uc buffer handeshake

/-- `filter_data_` for a connection without one. -/
def filterFresh (L : Option Queue) (fd : Nat) (buffer : List UInt8) (handeshake : Bool) :
    Except Fault (Option Queue × Result) :=
  let p := nextPack buffer handeshake
  let packSize := p.1
  let head := p.2.1
  if packSize = -1 then (saveHeader L fd p.2.2 handeshake).map fun L => (L, .none)
  else if packSize = -3 then .ok (closeUncomplete L fd, .wsclose fd)
  else
    let buffer' := p.2.2.drop head.packHeadLength
    if buffer'.length < packSize ∧ ¬handeshake then .ok (savePayload L fd packSize head buffer', .none)
    else if buffer'.length = packSize then
      .ok (L, .data fd (decodeWsmaskData buffer' head.mask head.ismask 0).1 buffer'.length)
    else if packSize < 0 then .error (.malloc packSize)
    else
      let d := decodeWsmaskData (buffer'.take packSize.toNat) head.mask head.ismask 0
      (pushMore (some (pushData L fd d.1 packSize)) fd (buffer'.drop packSize.toNat) handeshake).map fun L => (L, .more)

/-- `filter_data_`. -/
def filterData (L : Option Queue) (fd : Nat) (buffer : List UInt8) (handeshake : Bool) :
    Except Fault (Option Queue × Result) :=
  match findUncomplete L fd with
  | some (uc, q) => filterUncomplete q fd uc buffer handeshake
  | none => filterFresh L fd buffer handeshake

end SasyServer.Websocket
