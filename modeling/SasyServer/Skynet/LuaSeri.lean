import SasyServer.Lib.BlockBuffer
import SasyServer.Lib.LittleEndian

/-!
# The messages of Lua services: `pack` and `unpack`

`skynet/lualib-src/lua-seri.c`. The machine is little-endian and a pointer has eight bytes; a `double` is its eight bytes.
The `int` in which `pack` counts has no room from 2^31 bytes on (`PackFailure.overflow`); the lengths of a string and of an
array are in the message, so that theirs has room where this one has. What `unpack` is given has less than 2^31 bytes. Memory
or a stack that runs out is left out, also that of C, in which `unpack_one` calls itself for each table in a table.

A `Value` is what the packer sees through the Lua API. A table is what `lua_rawlen` answers for it and the pairs `lua_next`
walks through. A table whose metatable has `__pairs` is what this iterator gives, up to its first nil. Tables that are keys
have no name here: two of them are never the same key, and a table that is read is always a new one.
-/

namespace SasyServer.LuaSeri

inductive Value where
  | nil
  | boolean (b : Bool)
  | integer (x : BitVec 64)
  | number (x : BitVec 64)
  | lightuserdata (p : BitVec 64)
  | string (s : List UInt8)
  | table (rawlen : Nat) (entries : List (Value × Value))
  | pairsTable (pairs : List (Value × Value))
  /-- A function, a thread or a full userdata, with its `lua_typename`. -/
  | unsupported (typename : String)

abbrev Entries : Type := List (Value × Value)

/-- `lua_isnil`. -/
def Value.isNil : Value → Bool
  | .nil => true
  | _ => false

def typeNil : Nat := 0
def typeBoolean : Nat := 1
def typeNumber : Nat := 2
def typeNumberZero : Nat := 0
def typeNumberByte : Nat := 1
def typeNumberWord : Nat := 2
def typeNumberDword : Nat := 4
def typeNumberQword : Nat := 6
def typeNumberReal : Nat := 8
def typeUserdata : Nat := 3
def typeShortString : Nat := 4
def typeLongString : Nat := 5
def typeTable : Nat := 6

def maxCookie : Nat := 32
def blockSize : Nat := 128
def maxDepth : Nat := 32

/-- `COMBINE_TYPE`, as the `uint8_t` it is put into. -/
def combineType (t v : Nat) : UInt8 := UInt8.ofNat (t + 8 * v)

/-! ## Writing -/

instance : NeZero blockSize := ⟨by decide⟩

/-- How `pack` goes wrong. -/
inductive PackFailure where
  | raised (msg : String)
  /-- The `int` that counts the bytes has run over, which C leaves undefined. -/
  | overflow
  deriving DecidableEq

/-- `struct write_block`; `head`, `current` and `ptr` are the buffer's. `len` counts on where the `int` runs over, and
`seri` looks whether it has. -/
structure WriteBlock where
  buffer : BlockBuffer UInt8 blockSize
  len : Nat

/-- `wb_init`. -/
def wbInit : WriteBlock := ⟨BlockBuffer.empty, 0⟩

/-- `wb_push`. -/
def wbPush (b : WriteBlock) (buf : List UInt8) : WriteBlock := ⟨b.buffer.push buf, b.len + buf.length⟩

def wbNil (wb : WriteBlock) : WriteBlock := wbPush wb [UInt8.ofNat typeNil]

def wbBoolean (wb : WriteBlock) (boolean : Bool) : WriteBlock :=
  wbPush wb [combineType typeBoolean (if boolean then 1 else 0)]

/-- `v` is what `(int32_t)v` is. -/
def fitsInt32 (v : BitVec 64) : Bool := -2 ^ 31 ≤ v.toInt && v.toInt < 2 ^ 31

def wbInteger (wb : WriteBlock) (v : BitVec 64) : WriteBlock :=
  if v.toInt = 0 then wbPush wb [combineType typeNumber typeNumberZero]
  else if fitsInt32 v = false then wbPush (wbPush wb [combineType typeNumber typeNumberQword]) (LittleEndian.bytes 8 v.toNat)
  else if v.toInt < 0 then wbPush (wbPush wb [combineType typeNumber typeNumberDword]) (LittleEndian.bytes 4 v.toNat)
  else if v.toInt < 0x100 then wbPush (wbPush wb [combineType typeNumber typeNumberByte]) (LittleEndian.bytes 1 v.toNat)
  else if v.toInt < 0x10000 then wbPush (wbPush wb [combineType typeNumber typeNumberWord]) (LittleEndian.bytes 2 v.toNat)
  else wbPush (wbPush wb [combineType typeNumber typeNumberDword]) (LittleEndian.bytes 4 v.toNat)

def wbReal (wb : WriteBlock) (v : BitVec 64) : WriteBlock :=
  wbPush (wbPush wb [combineType typeNumber typeNumberReal]) (LittleEndian.bytes 8 v.toNat)

def wbPointer (wb : WriteBlock) (v : BitVec 64) : WriteBlock :=
  wbPush (wbPush wb [UInt8.ofNat typeUserdata]) (LittleEndian.bytes 8 v.toNat)

def wbString (wb : WriteBlock) (str : List UInt8) : WriteBlock :=
  if str.length < maxCookie then
    let wb := wbPush wb [combineType typeShortString str.length]
    if 0 < str.length then wbPush wb str else wb
  else if str.length < 0x10000 then
    wbPush (wbPush (wbPush wb [combineType typeLongString 2]) (LittleEndian.bytes 2 str.length)) str
  else wbPush (wbPush (wbPush wb [combineType typeLongString 4]) (LittleEndian.bytes 4 str.length)) str

/-- The two values are the same key of a table. -/
def sameKey : Value → Value → Bool
  | .nil, .nil => true
  | .boolean a, .boolean b => a == b
  | .integer a, .integer b => a == b
  | .number a, .number b => a == b
  | .lightuserdata a, .lightuserdata b => a == b
  | .string a, .string b => a == b
  | _, _ => false

/-- `lua_rawgeti`. -/
def rawgeti (entries : Entries) (i : Nat) : Value :=
  match entries.find? fun p => sameKey p.1 (.integer (BitVec.ofNat 64 i)) with
  | some p => p.2
  | none => .nil

/-- The key is one of the integers from 1 to `arraySize`. -/
def arrayKey (arraySize : Nat) : Value → Bool
  | .integer x => 0 < x.toInt && x.toInt ≤ arraySize
  | _ => false

/-- The head `wb_table_array` writes. -/
def wbTableHead (wb : WriteBlock) (arraySize : Nat) : WriteBlock :=
  if arraySize ≥ maxCookie - 1 then wbInteger (wbPush wb [combineType typeTable (maxCookie - 1)]) (BitVec.ofNat 64 arraySize)
  else wbPush wb [combineType typeTable arraySize]

section Table

variable (one : Value → WriteBlock → Except String WriteBlock)

/-- The values one after the other. -/
def packEach : List Value → WriteBlock → Except String WriteBlock
  | [], wb => .ok wb
  | v :: vs, wb =>
    match one v wb with
    | .ok wb => packEach vs wb
    | .error e => .error e

/-- `wb_table_array`. -/
def wbTableArray (wb : WriteBlock) (arraySize : Nat) (entries : Entries) : Except String WriteBlock :=
  packEach one ((List.range' 1 arraySize).map (rawgeti entries)) (wbTableHead wb arraySize)

/-- The loop over pairs in `wb_table_hash` and `wb_table_metapairs`: the key, then the value, and a nil at the end. -/
def wbPairs (wb : WriteBlock) (pairs : Entries) : Except String WriteBlock :=
  match packEach one (pairs.flatMap fun p => [p.1, p.2]) wb with
  | .ok wb => .ok (wbNil wb)
  | .error e => .error e

/-- `wb_table_hash`: the integer keys of the array are passed over. -/
def wbTableHash (wb : WriteBlock) (arraySize : Nat) (entries : Entries) : Except String WriteBlock :=
  wbPairs one wb (entries.filter fun p => !arrayKey arraySize p.1)

/-- `wb_table_metapairs`. -/
def wbTableMetapairs (wb : WriteBlock) (pairs : Entries) : Except String WriteBlock :=
  wbPairs one (wbPush wb [combineType typeTable 0]) pairs

/-- `wb_table` for a table without `__pairs`. -/
def wbTable (wb : WriteBlock) (arraySize : Nat) (entries : Entries) : Except String WriteBlock :=
  match wbTableArray one wb arraySize entries with
  | .ok wb => wbTableHash one wb arraySize entries
  | .error e => .error e

end Table

/-- `pack_one`; `left` is `MAX_DEPTH + 1 - depth`, the levels that are left. -/
def packOne : Nat → Value → WriteBlock → Except String WriteBlock
  | 0, _, _ => .error "serialize can't pack too depth table"
  | _ + 1, .nil, b => .ok (wbNil b)
  | _ + 1, .integer x, b => .ok (wbInteger b x)
  | _ + 1, .number x, b => .ok (wbReal b x)
  | _ + 1, .boolean x, b => .ok (wbBoolean b x)
  | _ + 1, .string s, b => .ok (wbString b s)
  | _ + 1, .lightuserdata p, b => .ok (wbPointer b p)
  | left + 1, .table rawlen entries, b => wbTable (packOne left) b rawlen entries
  | left + 1, .pairsTable pairs, b => wbTableMetapairs (packOne left) b pairs
  | _ + 1, .unsupported typename, _ => .error s!"Unsupport type {typename} to serialize"

/-- `pack_from` for all the arguments. -/
def packFrom (b : WriteBlock) (args : List Value) : Except String WriteBlock := packEach (packOne (maxDepth + 1)) args b

/-- `seri`: the bytes of the blocks in one piece. -/
def seri (b : WriteBlock) : Except PackFailure (List UInt8) :=
  if b.len < 2 ^ 31 then .ok (BlockBuffer.copyOut blockSize b.buffer.blocks b.len) else .error .overflow

/-- `luaseri_pack`. -/
def luaseriPack (args : List Value) : Except PackFailure (List UInt8) :=
  match packFrom wbInit args with
  | .ok wb => seri wb
  | .error e => .error (.raised e)

/-! ## Reading -/

/-- How `unpack` goes wrong. -/
inductive Failure where
  | raised (msg : String)
  /-- Bytes are read that are not in the buffer. -/
  | outside
  /-- The bound on the turns of the loops is used up. -/
  | fuel
  deriving DecidableEq

/-- A value and the bytes that are left: `struct read_block` from `ptr` on, `len` of them. -/
abbrev Reading (α : Type) : Type := Except Failure (α × List UInt8)

/-- `rb_read`: a pointer, which is what the buffer has from there on, and the bytes that are left. A negative size passes for
one that is there; what it does to `ptr` and `len` no one looks at (`getBuffer`). -/
def rbRead (rb : List UInt8) (sz : Int) : Option (List UInt8 × List UInt8) :=
  if (rb.length : Int) < sz then none else some (rb, rb.drop sz.toNat)

/-- The `n` bytes at a pointer are read. -/
def bytesAt (p : List UInt8) (n : Nat) : Except Failure (List UInt8) :=
  if n ≤ p.length then .ok (p.take n) else .error .outside

/-- `invalid_stream_line`. -/
def invalidStream (rb : List UInt8) (line : Nat) : Failure :=
  .raised s!"Invalid serialize stream {toString rb.length} (line:{toString line})"

/-- A read whose failure is raised at the line. -/
def readAt (line : Nat) (rb : List UInt8) (sz : Nat) : Reading (List UInt8) :=
  match rbRead rb sz with
  | none => .error (invalidStream rb line)
  | some (p, rb) =>
    match bytesAt p sz with
    | .ok bs => .ok (bs, rb)
    | .error e => .error e

/-- A read and what is made of its bytes. -/
def readAs {α : Type} (line : Nat) (rb : List UInt8) (sz : Nat) (f : List UInt8 → α) : Reading α :=
  match readAt line rb sz with
  | .ok (bs, rb) => .ok (f bs, rb)
  | .error e => .error e

def getInteger (rb : List UInt8) (cookie : Nat) : Reading (BitVec 64) :=
  if cookie = typeNumberZero then .ok (0, rb)
  else if cookie = typeNumberByte then readAs 368 rb 1 fun bs => BitVec.ofNat 64 (LittleEndian.value bs)
  else if cookie = typeNumberWord then readAs 376 rb 2 fun bs => BitVec.ofNat 64 (LittleEndian.value bs)
  else if cookie = typeNumberDword then readAs 384 rb 4 fun bs => (BitVec.ofNat 32 (LittleEndian.value bs)).signExtend 64
  else if cookie = typeNumberQword then readAs 392 rb 8 fun bs => BitVec.ofNat 64 (LittleEndian.value bs)
  else .error (invalidStream rb 397)

def getReal (rb : List UInt8) : Reading (BitVec 64) := readAs 407 rb 8 fun bs => BitVec.ofNat 64 (LittleEndian.value bs)

def getPointer (rb : List UInt8) : Reading (BitVec 64) := readAs 417 rb 8 fun bs => BitVec.ofNat 64 (LittleEndian.value bs)

/-- `MAX_SIZE` of Lua without the head of a string. -/
def maxString : Nat := 2 ^ 63 - 1 - 32

/-- `lua_pushlstring`: `luaS_newlstr` looks at the length before it copies the bytes. -/
def luaPushlstring (p : List UInt8) (len : Nat) : Except Failure Value :=
  if maxString ≤ len then .error (.raised "memory allocation error: block too big")
  else
    match bytesAt p len with
    | .ok bs => .ok (.string bs)
    | .error e => .error e

/-- `get_buffer`. A negative `len` gets past `rb_read`, and as a `size_t` it is longer than any string. -/
def getBuffer (rb : List UInt8) (len : Int) : Reading Value :=
  match rbRead rb len with
  | none => .error (invalidStream rb 427)
  | some (p, rb) =>
    match luaPushlstring p (BitVec.ofInt 64 len).toNat with
    | .ok v => .ok (v, rb)
    | .error e => .error e

/-- A `double` is not a number. -/
def isNaN (x : BitVec 64) : Bool := x.toNat / 2 ^ 52 % 2 ^ 11 == 2047 && x.toNat % 2 ^ 52 != 0

/-- `luaV_tointeger` of a `double` without rounding: the integer it is, when it is one. -/
def toInteger (x : BitVec 64) : Option (BitVec 64) :=
  let exponent := x.toNat / 2 ^ 52 % 2 ^ 11
  let mantissa := if exponent = 0 then x.toNat % 2 ^ 52 else 2 ^ 52 + x.toNat % 2 ^ 52
  let shift := max exponent 1
  -- the number is `mantissa * 2 ^ (shift - 1075)`
  if exponent = 2047 ∨ mantissa * 2 ^ shift % 2 ^ 1075 ≠ 0 then none
  else
    let magnitude : Nat := mantissa * 2 ^ shift / 2 ^ 1075
    let n : Int := if x.toNat < 2 ^ 63 then magnitude else -(magnitude : Int)
    if -2 ^ 63 ≤ n ∧ n < 2 ^ 63 then some (BitVec.ofInt 64 n) else none

/-- A key as the table keeps it: a `double` that is an integer becomes one. -/
def tableKey : Value → Value
  | .number x =>
    match toInteger x with
    | some i => .integer i
    | none => .number x
  | k => k

/-- The key cannot be one of a table. -/
def isNaNKey : Value → Bool
  | .number x => isNaN x
  | _ => false

/-- The entries with a value for a key that is in the form of the table. -/
def assign (entries : Entries) (k v : Value) : Entries :=
  if v.isNil then entries.filter fun p => !sameKey p.1 k
  else if entries.any fun p => sameKey p.1 k then entries.map fun p => if sameKey p.1 k then (p.1, v) else p
  else entries ++ [(k, v)]

/-- `lua_rawset` with a key that is not nil. -/
def rawset (entries : Entries) (k v : Value) : Except Failure Entries :=
  if isNaNKey k then .error (.raised "table index is NaN") else .ok (assign entries (tableKey k) v)

section Unpack

variable (one : List UInt8 → Reading Value)

/-- The first loop of `unpack_table`: `n` values for the keys from `i` on. -/
def unpackArray : Nat → Nat → Entries → List UInt8 → Reading Entries
  | 0, _, entries, rb => .ok (entries, rb)
  | n + 1, i, entries, rb =>
    match one rb with
    | .ok (v, rb) => unpackArray n (i + 1) (assign entries (.integer (BitVec.ofNat 64 i)) v) rb
    | .error e => .error e

/-- The second loop: pairs up to a nil, with a bound on its turns. -/
def unpackHash : Nat → Entries → List UInt8 → Reading Entries
  | 0, _, _ => .error .fuel
  | n + 1, entries, rb =>
    match one rb with
    | .error e => .error e
    | .ok (k, rb) =>
      if k.isNil then .ok (entries, rb)
      else
        match one rb with
        | .error e => .error e
        | .ok (v, rb) =>
          match rawset entries k v with
          | .ok entries => unpackHash n entries rb
          | .error e => .error e

/-- The number of array elements `unpack_table` takes from its cookie or from the number after it: an `int`. -/
def unpackArraySize (cookie : Nat) (rb : List UInt8) : Reading Int :=
  if cookie = maxCookie - 1 then
    match readAs 440 rb 1 LittleEndian.value with
    | .error e => .error e
    | .ok (type, rb) =>
      if type % 8 ≠ typeNumber ∨ type / 8 = typeNumberReal then .error (invalidStream rb 445)
      else
        match getInteger rb (type / 8) with
        | .ok (x, rb) => .ok ((x.setWidth 32).toInt, rb)
        | .error e => .error e
  else .ok (cookie, rb)

/-- `unpack_table`; `fuel` bounds the pairs. -/
def unpackTable (fuel cookie : Nat) (rb : List UInt8) : Reading Entries :=
  match unpackArraySize cookie rb with
  | .error e => .error e
  | .ok (arraySize, rb) =>
    match unpackArray one arraySize.toNat 1 [] rb with
    | .ok (entries, rb) => unpackHash one fuel entries rb
    | .error e => .error e

/-- The length of a long string, and the string; the one in four bytes is made an `int`. -/
def getLongString (cookie : Nat) (rb : List UInt8) : Reading Value :=
  if cookie = 2 then
    match readAs 493 rb 2 LittleEndian.value with
    | .ok (n, rb) => getBuffer rb n
    | .error e => .error e
  else if cookie ≠ 4 then .error (invalidStream rb 500)
  else
    match readAs 504 rb 4 LittleEndian.value with
    | .ok (n, rb) => getBuffer rb (BitVec.ofNat 32 n).toInt
    | .error e => .error e

/-- A reading, with what is made of its value. -/
def Reading.map {α β : Type} (f : α → β) : Reading α → Reading β
  | .ok (x, rb) => .ok (f x, rb)
  | .error e => .error e

/-- `push_value`; `border` is the length Lua gives a table it has built. -/
def pushValue (border : Entries → Nat) (fuel type cookie : Nat) (rb : List UInt8) : Reading Value :=
  if type = typeNil then .ok (.nil, rb)
  else if type = typeBoolean then .ok (.boolean (cookie != 0), rb)
  else if type = typeNumber then
    if cookie = typeNumberReal then Reading.map .number (getReal rb) else Reading.map .integer (getInteger rb cookie)
  else if type = typeUserdata then Reading.map .lightuserdata (getPointer rb)
  else if type = typeShortString then getBuffer rb cookie
  else if type = typeLongString then getLongString cookie rb
  else if type = typeTable then Reading.map (fun entries => .table (border entries) entries) (unpackTable one fuel cookie rb)
  else .error (invalidStream rb 517)

end Unpack

section Border

variable (border : Entries → Nat)

/-- `unpack_one`, with a bound on the depth and on the pairs of a table. -/
def unpackOne : Nat → List UInt8 → Reading Value
  | 0, _ => .error .fuel
  | fuel + 1, rb =>
    match readAs 528 rb 1 LittleEndian.value with
    | .ok (type, rb) => pushValue (unpackOne fuel) border fuel (type % 8) (type / 8) rb
    | .error e => .error e

/-- The loop of `luaseri_unpack`. -/
def unpackAll : Nat → List UInt8 → Except Failure (List Value)
  | 0, _ => .error .fuel
  | fuel + 1, rb =>
    match rbRead rb 1 with
    | none => .ok []
    | some (p, rb) =>
      match bytesAt p 1 with
      | .error e => .error e
      | .ok t =>
        match pushValue (unpackOne border fuel) border fuel (LittleEndian.value t % 8) (LittleEndian.value t / 8) rb with
        | .error e => .error e
        | .ok (v, rb) =>
          match unpackAll fuel rb with
          | .ok vs => .ok (v :: vs)
          | .error e => .error e

/-- `luaseri_unpack`: no loop takes more turns than there are bytes. -/
def luaseriUnpack (buffer : List UInt8) : Except Failure (List Value) := unpackAll border (buffer.length + 1) buffer

end Border

end SasyServer.LuaSeri
