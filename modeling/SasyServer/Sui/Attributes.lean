import Mathlib.Data.Int.ModEq
import Mathlib.Data.List.AList
import Mathlib.Logic.Function.Basic
import SasyServer.Sui.UserInfo

/-!
# The attributes of a user item

`luaclib-src/lua-sui.c`: all of `struct user_info`, the two chains of comparisons `testGet` and `testSet`, and the
functions `getAttribute` and `setAttribute`. A branch of a chain is its name with the member it reads or writes; what a
branch does follows from the type of the member. The branches stand in the order of the source, and the first whose name
is the one looked for is taken.

A Lua table has its pairs in the order in which `lua_next` gives them. What C leaves undefined (a `strcpy` that does not fit,
a `strcmp` with no string), and the conversions that Lua makes of a value of another type, are not said.
-/

namespace SasyServer.ServerUserItem

open Sui (VariationInfo)

/-! ## The record -/

/-- The types of the members that are numbers. -/
inductive IntType where
  | int64 | int32 | uint32 | uint16 | uint8
  deriving DecidableEq, Repr

/-- The values of a type, from the first on and before the second. -/
def IntType.bounds : IntType → Int × Int
  | .int64 => (-2 ^ 63, 2 ^ 63)
  | .int32 => (-2 ^ 31, 2 ^ 31)
  | .uint32 => (0, 2 ^ 32)
  | .uint16 => (0, 2 ^ 16)
  | .uint8 => (0, 2 ^ 8)

/-- The assignment of a `lua_Integer`, which is an `int64_t`, to a member of the type. -/
def IntType.convert : IntType → Int → Int
  | .int64, n => n
  | .int32, n => Int.bmod n (2 ^ 32)
  | .uint32, n => n % 2 ^ 32
  | .uint16, n => n % 2 ^ 16
  | .uint8, n => n % 2 ^ 8

/-- The members that are written with `lua_toboolean`. -/
inductive Flag where
  | isModified | isAndroid | isClientReady
  deriving DecidableEq, Repr

/-- The members that are numbers. -/
inductive Number where
  | grade | trusteeScore | frozenedScore | deskPos | kindID | nodeID | serverID | tableID | chairID |
    userStatus | restrictScore
  | enListStatus | agent | deskCount | userRule | mobileUserRule | logonTime | inoutIndex | userID | gameID | platformID |
    gender | faceID
  | userRight | masterRight | memberOrder | masterOrder | siteDownScore | score | insure | present | loveliness | medal |
    gift | experience
  | winCount | lostCount | drawCount | fleeCount | contribution | dbStatus
  deriving DecidableEq, Repr

/-- The members that are strings. -/
inductive Text where
  | ipAddr | machineID | nickName | signature | platformFace
  deriving DecidableEq, Repr

/-- The type of a number. -/
def Number.type : Number → IntType
  | .userStatus | .enListStatus | .agent | .deskCount | .userRight | .masterRight | .memberOrder | .masterOrder => .int32
  | .deskPos | .kindID | .nodeID | .serverID | .tableID | .chairID | .userRule | .mobileUserRule | .logonTime |
    .inoutIndex | .userID
  | .gameID | .platformID => .uint32
  | .faceID => .uint16
  | .gender => .uint8
  | _ => .int64

/-- The length of the array of a string. -/
def Text.size : Text → Nat
  | .ipAddr => 32
  | .machineID => 40
  | .nickName => 128
  | .signature => 256
  | .platformFace => 256

/-- A `char` array of `n` bytes. -/
structure CharArray (n : Nat) where
  bytes : List UInt8
  length_bytes : bytes.length = n

/-- What `lua_pushlstring` takes of an array: the bytes before the first NUL. -/
def CharArray.string {n : Nat} (a : CharArray n) : List UInt8 := a.bytes.takeWhile (· ≠ 0)

/-- `strcpy` of a string that fits with its NUL. The bytes behind it stay. -/
def CharArray.strcpy {n : Nat} (a : CharArray n) (s : List UInt8) (h : s.length < n) : CharArray n where
  bytes := s ++ 0 :: a.bytes.drop (s.length + 1)
  length_bytes := by
    rw [List.length_append, List.length_cons, List.length_drop, a.length_bytes]
    omega

/-- `struct user_info`. -/
structure UserInfo where
  isInit : Bool
  flag : Flag → Bool
  variationInfo : VariationInfo
  number : Number → Int
  text : (m : Text) → CharArray m.size

/-- `l_new`: all bytes are zero. -/
def UserInfo.new : UserInfo where
  isInit := false
  flag _ := false
  variationInfo := VariationInfo.zero
  number _ := 0
  text m := ⟨List.replicate m.size 0, List.length_replicate⟩

/-- A member that a branch reads or writes. -/
inductive Member where
  | flag (m : Flag)
  | variationInfo
  | number (m : Number)
  | text (m : Text)
  deriving DecidableEq, Repr

/-! ## The values -/

/-- The values in a table of attributes; a table in it is a variation. -/
inductive LuaValue where
  | boolean (b : Bool)
  | integer (n : Int)
  | string (s : List UInt8)
  | table (t : AList fun _ : String => Int)

/-- `lua_toboolean`, of a value that is not `nil`. -/
def LuaValue.toBoolean : LuaValue → Bool
  | .boolean b => b
  | _ => true

/-- `lua_tointeger`, of an integer. -/
def LuaValue.toInteger : LuaValue → Option Int
  | .integer n => some n
  | _ => none

/-- `lua_tostring`, of a string, as C reads it. -/
def LuaValue.toString : LuaValue → Option (List UInt8)
  | .string s => some (s.takeWhile (· ≠ 0))
  | _ => none

/-- The pairs `lua_next` gives, of a table. -/
def LuaValue.toPairs : LuaValue → Option (List (Sigma fun _ : String => Int))
  | .table t => some t.entries
  | _ => none

/-! ## `testGet` and `testSet` -/

/-- The chain of `testGet`: the name that is compared, the name that is pushed, and the member that is read. -/
def getChain : List (String × String × Member) :=
  [("isModified", "isModified", .flag .isModified), ("variationInfo", "variationInfo", .variationInfo),
    ("grade", "grade", .number .grade), ("trusteeScore", "trusteeScore", .number .trusteeScore),
    ("frozenedScore", "frozenedScore", .number .frozenedScore), ("deskPos", "deskPos", .number .deskPos),
    ("kindID", "kindID", .number .kindID), ("nodeID", "nodeID", .number .nodeID),
      ("serverID", "serverID", .number .serverID),
    ("tableID", "tableID", .number .tableID), ("chairID", "chairID", .number .chairID),
      ("userStatus", "userStatus", .number .userStatus),
    ("restrictScore", "restrictScore", .number .restrictScore), ("enListStatus", "enListStatus", .number .enListStatus),
    ("isAndroid", "isAndroid", .flag .isAndroid), ("agent", "agent", .number .agent), ("ipAddr", "ipAddr", .text .ipAddr),
    ("machineID", "machineID", .text .machineID), ("deskCount", "deskCount", .number .deskCount),
    ("userRule", "userRule", .number .userRule), ("mobileUserRule", "mobileUserRule", .number .mobileUserRule),
    ("logonTime", "logonTime", .number .logonTime), ("inoutIndex", "inoutIndex", .number .inoutIndex),
    ("isClientReady", "isClientReady", .flag .isClientReady), ("userID", "userID", .number .userID),
      ("gameID", "gameID", .number .gameID),
    ("platformID", "platformID", .number .platformID), ("nickName", "nickName", .text .nickName),
    ("signature", "signature", .text .signature), ("gender", "gender", .number .gender),
      ("faceID", "faceID", .number .faceID),
    ("platformFace", "platformFace", .text .platformFace), ("userRight", "userRight", .number .userRight),
    ("masterRight", "masterRight", .number .masterRight), ("memberOrder", "memberOrder", .number .memberOrder),
    ("masterOrder", "masterOrder", .number .masterOrder), ("siteDownScore", "siteDownScore", .number .siteDownScore),
    ("score", "score", .number .score), ("insure", "insure", .number .insure), ("present", "present", .number .present),
    ("loveliness", "loveliness", .number .loveliness), ("medal", "medal", .number .medal), ("gift", "gift", .number .gift),
    ("experience", "experience", .number .experience), ("winCount", "winCount", .number .winCount),
    ("lostCount", "lostCount", .number .lostCount), ("drawCount", "drawCount", .number .drawCount),
    ("fleeCount", "fleeCount", .number .fleeCount), ("contribution", "contribution", .number .contribution),
    ("dbStatus", "dbStatus", .number .dbStatus)]

/-- The chain of `testSet`: the name that is compared, and the member that is written. -/
def setChain : List (String × Member) :=
  [("isModified", .flag .isModified), ("variationInfo", .variationInfo), ("grade", .number .grade),
    ("trusteeScore", .number .trusteeScore), ("frozenedScore", .number .frozenedScore), ("deskPos", .number .deskPos),
    ("kindID", .number .kindID), ("nodeID", .number .nodeID), ("serverID", .number .serverID), ("tableID", .number .tableID),
    ("chairID", .number .chairID), ("userStatus", .number .userStatus), ("restrictScore", .number .restrictScore),
    ("enListStatus", .number .enListStatus), ("isAndroid", .flag .isAndroid), ("agent", .number .agent),
      ("ipAddr", .text .ipAddr),
    ("machineID", .text .machineID), ("deskCount", .number .deskCount), ("userRule", .number .userRule),
    ("mobileUserRule", .number .mobileUserRule), ("logonTime", .number .logonTime), ("inoutIndex", .number .inoutIndex),
    ("isClientReady", .flag .isClientReady), ("userID", .number .userID), ("gameID", .number .gameID),
      ("platformID", .number .platformID),
    ("nickName", .text .nickName), ("signature", .text .signature), ("gender", .number .gender), ("faceID", .number .faceID),
    ("platformFace", .text .platformFace), ("userRight", .number .userRight), ("masterRight", .number .masterRight),
    ("memberOrder", .number .memberOrder), ("masterOrder", .number .masterOrder), ("siteDownScore", .number .siteDownScore),
    ("score", .number .score), ("insure", .number .insure), ("present", .number .present),
      ("loveliness", .number .loveliness),
    ("medal", .number .medal), ("gift", .number .gift), ("experience", .number .experience), ("winCount", .number .winCount),
    ("lostCount", .number .lostCount), ("drawCount", .number .drawCount), ("fleeCount", .number .fleeCount),
    ("contribution", .number .contribution), ("dbStatus", .number .dbStatus)]

/-- The table that `testGet` makes of the variation. -/
def pushVariationInfo (v : VariationInfo) : AList fun _ : String => Int :=
  List.toAList
    [⟨"revenue", v.revenue⟩, ⟨"score", v.score⟩, ⟨"insure", v.insure⟩, ⟨"grade", v.grade⟩, ⟨"medal", v.medal⟩,
      ⟨"gift", v.gift⟩, ⟨"present", v.present⟩, ⟨"experience", v.experience⟩, ⟨"playTimeCount", v.playTimeCount⟩,
        ⟨"winCount", v.winCount⟩,
      ⟨"lostCount", v.lostCount⟩, ⟨"drawCount", v.drawCount⟩, ⟨"fleeCount", v.fleeCount⟩]

/-- What a branch of `testGet` pushes. -/
def UserInfo.push (p : UserInfo) : Member → LuaValue
  | .flag m => .boolean (p.flag m)
  | .variationInfo => .table (pushVariationInfo p.variationInfo)
  | .number m => .integer (p.number m)
  | .text m => .string (p.text m).string

/-- `testGet`: what it writes to the table that is returned. -/
def testGet (p : UserInfo) (k : String) (r : AList fun _ : String => LuaValue) : AList fun _ : String => LuaValue :=
  match getChain.lookup k with
  | some (name, m) => r.insert name (p.push m)
  | none => r

/-- What a branch of `testSet` writes. -/
def UserInfo.write (p : UserInfo) (v : LuaValue) : Member → Option UserInfo
  | .flag m => some { p with flag := Function.update p.flag m v.toBoolean }
  | .variationInfo => v.toPairs.map fun t => { p with variationInfo := t.foldl (fun w e => w.set e.1 e.2) p.variationInfo }
  | .number m => v.toInteger.map fun n => { p with number := Function.update p.number m (m.type.convert n) }
  | .text m =>
    v.toString.bind fun s =>
      if h : s.length < m.size then some { p with text := Function.update p.text m ((p.text m).strcpy s h) } else none

/-- `testSet`. -/
def testSet (p : UserInfo) (k : String) (v : LuaValue) : Option UserInfo :=
  match setChain.lookup k with
  | some m => p.write v m
  | none => some p

/-! ## `getAttribute` and `setAttribute` -/

/-- The item of a call, or the text of the error: it is a user item, and initialized. -/
def checkItem : Option UserInfo → Except String UserInfo
  | none => .error "not an userdata"
  | some p => if p.isInit then .ok p else .error "operate an unused object"

/-- `l_getAttribute`, with a list of names. -/
def getAttribute (item : Option UserInfo) (names : List String) : Except String (AList fun _ : String => LuaValue) :=
  (checkItem item).map fun p => names.foldl (fun r k => testGet p k r) ∅

/-- The loop of `l_setAttribute` and `l_initialize`. -/
def setLoop : UserInfo → List (Sigma fun _ : String => LuaValue) → Option UserInfo
  | p, [] => some p
  | p, e :: attributes => (testSet p e.1 e.2).bind fun p => setLoop p attributes

/-- `l_initialize`, with the tables `userInfo` and `userInfoPlus`. -/
def lInitialize (item : Option UserInfo) (userInfo userInfoPlus : AList fun _ : String => LuaValue) :
    Except String (Option UserInfo) :=
  match item with
  | none => .error "not an userdata"
  | some p =>
    if p.isInit then .error "is already initialized"
    else .ok ((setLoop { p with isInit := true } userInfo.entries).bind fun p => setLoop p userInfoPlus.entries)

/-- `l_setAttribute`; nothing is said of a call whose behaviour is undefined. -/
def setAttribute (item : Option UserInfo) (attributes : AList fun _ : String => LuaValue) :
    Except String (Option UserInfo) :=
  (checkItem item).map fun p => setLoop p attributes.entries

end SasyServer.ServerUserItem
