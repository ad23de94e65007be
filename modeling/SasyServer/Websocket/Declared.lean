import SasyServer.Websocket.Frames

/-!
# What a frame header declares

The first bytes of a frame as the websocket protocol defines them, in terms of numbers and without the sentinels and
the casts of `readSize`: the header is not complete, the first two bytes are no start of a message, the peer closes, or
the header of a frame is complete and declares a length. `Answer.encode` is the answer `readSize` has for each, the
length narrowed to an `int`.
-/

namespace SasyServer.Websocket

/-- What the first bytes of a buffer say. -/
inductive Answer where
  | incomplete
  | discard
  | close
  | frame (declared : Nat) (head : Head)
  deriving DecidableEq, Repr

/-- A number from its bytes, the highest first. -/
def bigValue (bytes : List UInt8) : Nat := bytes.foldl (fun n b => n * 2 ^ 8 + b.toNat) 0

/-- FIN is not set, or an RSV bit is, or the opcode is that of a fragment. -/
def discarded (b0 : UInt8) : Prop := b0.toNat / 2 ^ 4 % 2 ^ 3 ≠ 0 ∨ b0.toNat < 2 ^ 7 ∨ b0.toNat % 2 ^ 4 = 0

instance (b0 : UInt8) : Decidable (discarded b0) := inferInstanceAs (Decidable (_ ∨ _ ∨ _))

/-- The number of length bytes after the first two bytes. -/
def extendedLength (b1 : UInt8) : Nat := if b1.toNat % 2 ^ 7 < 126 then 0 else if b1.toNat % 2 ^ 7 = 126 then 2 else 8

/-- The mask bit. -/
def masked (b1 : UInt8) : Bool := 2 ^ 7 ≤ b1.toNat

/-- The number of bytes of the header. -/
def headLength (b1 : UInt8) : Nat := websocketHeaderLen + extendedLength b1 + if masked b1 then websocketMaskLen else 0

/-- The four bytes of a mask key. -/
def keyOf (bytes : List UInt8) : Mask := ⟨bytes.getD 0 0, bytes.getD 1 0, bytes.getD 2 0, bytes.getD 3 0⟩

/-- The length a header declares, given the bytes after the first two. -/
def declaredLength (b1 : UInt8) (rest : List UInt8) : Nat :=
  if extendedLength b1 = 0 then b1.toNat % 2 ^ 7 else bigValue (rest.take (extendedLength b1))

/-- What is read of a complete header besides the length. -/
def declaredHead (b1 : UInt8) (rest : List UInt8) : Head :=
  ⟨headLength b1, if masked b1 then keyOf (rest.drop (extendedLength b1)) else Mask.zero, masked b1⟩

/-- The answer of the protocol. -/
def answer : List UInt8 → Answer
  | b0 :: b1 :: rest =>
    if discarded b0 then .discard
    else if b0.toNat % 2 ^ 4 = 8 then .close
    else if (b0 :: b1 :: rest).length < headLength b1 then .incomplete
    else .frame (declaredLength b1 rest) (declaredHead b1 rest)
  | _ => .incomplete

/-- An answer as an `int` and the out parameters. -/
def Answer.encode : Answer → Int × Head
  | .incomplete => (-1, Head.init)
  | .discard => (-2, Head.init)
  | .close => (-3, Head.init)
  | .frame declared head => (toInt32 declared, head)

end SasyServer.Websocket
