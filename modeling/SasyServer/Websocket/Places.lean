import SasyServer.Websocket.Declared

/-!
# Where `filterData` looks for a frame header

The calls of `readSize` that `filterData` makes past the handshake, each as the bytes it is given: those of the loop that
throws two bytes away, of `pushMore` at the start of every packet, and of the loop that moves the bytes of a chunk to a
header that is not complete. The loops are those of `Filter`; only what they pass to `readSize` is kept.
-/

namespace SasyServer.Websocket

/-- The calls of the loop around `readSize`. -/
def skipPlaces : List UInt8 → List (List UInt8)
  | b0 :: b1 :: rest => (b0 :: b1 :: rest) :: if (readSize (b0 :: b1 :: rest)).1 = -2 then skipPlaces rest else []
  | buffer => [buffer]

/-- The bytes after the packet that `nextPack` finds. -/
def afterPack (buffer : List UInt8) : List UInt8 :=
  ((nextPack buffer false).2.2.drop (nextPack buffer false).2.1.packHeadLength).drop (nextPack buffer false).1.toNat

/-- The calls of `pushMore`, and those of `filterFresh`. -/
def readPlaces (buffer : List UInt8) : List (List UInt8) :=
  skipPlaces buffer ++
    if _h : 0 ≤ (nextPack buffer false).1 ∧ 0 < (afterPack buffer).length then readPlaces (afterPack buffer) else []
termination_by buffer.length
decreasing_by exact nextPack_lt _h.1

/-- The calls once a packet of `need` bytes is awaited. -/
def packPlaces (need : Int) (buffer : List UInt8) : List (List UInt8) :=
  if buffer.length ≤ need then [] else readPlaces (buffer.drop need.toNat)

/-- The calls with a header that is not complete. -/
def fillPlaces : List UInt8 → List UInt8 → List (List UInt8)
  | _, [] => []
  | header, b :: buffer =>
    let p := nextPack (header ++ [b]) false
    skipPlaces (header ++ [b]) ++
      if 0 ≤ p.1 then packPlaces p.1 buffer else if buffer = [] then [] else fillPlaces p.2.2 buffer

/-- The calls for a connection, by its unfinished packet. -/
def places (entry : Option Uncomplete) (buffer : List UInt8) : List (List UInt8) :=
  match entry with
  | none => readPlaces buffer
  | some uc => if uc.read < 0 then fillPlaces uc.header buffer else packPlaces (uc.pack.size - uc.read) buffer

/-- The length that the header in front of the bytes declares, if it is complete. -/
def declaredAt (buffer : List UInt8) : Option Nat :=
  match answer buffer with
  | .frame declared _ => some declared
  | _ => none

/-- The declared lengths that are read of a chunk. -/
def lengthsRead (entry : Option Uncomplete) (buffer : List UInt8) : List Nat := (places entry buffer).filterMap declaredAt

/-- A complete frame header whose length is read as -1, the answer for a header that is not complete. -/
def readsIncomplete (buffer : List UInt8) : Bool :=
  match answer buffer with
  | .frame declared _ => toInt32 declared = -1
  | _ => false

end SasyServer.Websocket
