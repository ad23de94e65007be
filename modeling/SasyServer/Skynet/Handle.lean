import SasyServer.Lib.BinarySearch
import SasyServer.Lib.SlotTable

/-!
# The handles of the services

`skynet/skynet-src/skynet_handle.c`, where every function has the lock of the storage for as long as it runs.
`skynet_context_new` writes the handle into the context right after it was registered; the two are one step here. A name is
its bytes, and `strcmp` is the order of these; the memory of the two tables is left out.
-/

namespace SasyServer.Skynet

def handleMask : Nat := 0xffffff
def handleRemoteShift : Nat := 24
def defaultSlotSize : Nat := 4

/-- `struct handle_storage`. A slot has a context and the handle this context has. -/
structure HandleStorage (γ : Type) where
  harbor : Nat
  handleIndex : Nat
  slotSize : Nat
  slot : SlotTable.Slots γ
  name : List (List UInt8 × Nat)

namespace HandleStorage

variable {γ : Type}

/-- `skynet_handle_init`. -/
def init (harbor : Nat) : HandleStorage γ :=
  { harbor := (harbor &&& 0xff) <<< handleRemoteShift
    handleIndex := 1
    slotSize := defaultSlotSize
    slot := fun _ => none
    name := [] }

/-- The inner loop of `skynet_handle_register`: the first handle from `handle` on whose slot is free. -/
def freeHandle (slotSize : Nat) (slot : SlotTable.Slots γ) : Nat → Nat → Option Nat
  | 0, _ => none
  | n + 1, handle =>
    -- 0 is reserved
    let handle := if handle > handleMask then 1 else handle
    if (slot (handle &&& (slotSize - 1))).isNone then some handle else freeHandle slotSize slot n (handle + 1)

/-- The contexts of the first slots go to a table of twice the size. There is none when a slot has no context, whose handle
is read all the same, or when an assertion fails. -/
def moveSlots (slotSize : Nat) (slot : SlotTable.Slots γ) : Nat → Option (SlotTable.Slots γ)
  | 0 => some fun _ => none
  | n + 1 =>
    match moveSlots slotSize slot n, slot n with
    | some newSlot, some context =>
      let hash := context.1 &&& (slotSize * 2 - 1)
      if (newSlot hash).isNone then some (Function.update newSlot hash (some context)) else none
    | _, _ => none

/-- The outer loop of `skynet_handle_register`, with a bound on its turns: the handle and the storage, or nothing
where the program stops. -/
def registerLoop (context : γ) : Nat → HandleStorage γ → Option (Nat × HandleStorage γ)
  | 0, _ => none
  | turns + 1, s =>
    match freeHandle s.slotSize s.slot s.slotSize s.handleIndex with
    | some handle =>
      let hash := handle &&& (s.slotSize - 1)
      some (handle ||| s.harbor,
        { s with slot := Function.update s.slot hash (some (handle ||| s.harbor, context)), handleIndex := handle + 1 })
    | none =>
      if s.slotSize * 2 - 1 ≤ handleMask then
        match moveSlots s.slotSize s.slot s.slotSize with
        | some slot => registerLoop context turns { s with slot, slotSize := s.slotSize * 2 }
        | none => none
      else none

/-- `skynet_handle_register`: a table does not double as often as a handle has bits. -/
def register (s : HandleStorage γ) (context : γ) : Option (Nat × HandleStorage γ) := registerLoop context handleRemoteShift s

/-- `skynet_handle_retire`. -/
def retire (s : HandleStorage γ) (handle : Nat) : Bool × HandleStorage γ :=
  let hash := handle &&& (s.slotSize - 1)
  match s.slot hash with
  | some context =>
    if context.1 = handle then
      (true, { s with slot := Function.update s.slot hash none, name := s.name.filter fun n => n.2 ≠ handle })
    else (false, s)
  | none => (false, s)

/-- `skynet_handle_grab`. -/
def grab (s : HandleStorage γ) (handle : Nat) : Option γ :=
  match s.slot (handle &&& (s.slotSize - 1)) with
  | some context => if context.1 = handle then some context.2 else none
  | none => none

/-- The entry of `name` at a place. -/
def nameAt (s : HandleStorage γ) (i : Nat) : List UInt8 × Nat := s.name.getD i ([], 0)

/-- The loop that `skynet_handle_findname` and `_insert_name` have. -/
def searchName (s : HandleStorage γ) (name : List UInt8) : BinarySearch.Place :=
  BinarySearch.search (fun i => (s.nameAt i).1) name (s.name.length + 1) 0 s.name.length

/-- `skynet_handle_findname`. -/
def findname (s : HandleStorage γ) (name : List UInt8) : Nat :=
  match s.searchName name with
  | .found mid => (s.nameAt mid).2
  | .before _ => 0

/-- `_insert_name_before`. -/
def insertNameBefore (s : HandleStorage γ) (name : List UInt8) (handle before : Nat) : HandleStorage γ :=
  { s with name := s.name.take before ++ (name, handle) :: s.name.drop before }

/-- `skynet_handle_namehandle`: a string and the storage, or no string. -/
def namehandle (s : HandleStorage γ) (handle : Nat) (name : List UInt8) : Bool × HandleStorage γ :=
  match s.searchName name with
  | .found _ => (false, s)
  | .before begin => (true, s.insertNameBefore name handle begin)

end HandleStorage

/-- The functions that write the storage. -/
inductive HandleCall (γ : Type) where
  | register (context : γ)
  | retire (handle : Nat)
  | namehandle (handle : Nat) (name : List UInt8)
  deriving DecidableEq, Repr

/-- What one of them returns: a handle, or whether there was something to do. -/
inductive HandleResult where
  | handle (handle : Nat)
  | done (b : Bool)
  deriving DecidableEq, Repr

/-- Calls one after another, and what they return. -/
def HandleStorage.run {γ : Type} : List (HandleCall γ) → HandleStorage γ → Option (List HandleResult × HandleStorage γ)
  | [], s => some ([], s)
  | .register context :: calls, s =>
    match s.register context with
    | some (handle, s) => (run calls s).map fun p => (.handle handle :: p.1, p.2)
    | none => none
  | .retire handle :: calls, s => (run calls (s.retire handle).2).map fun p => (.done (s.retire handle).1 :: p.1, p.2)
  | .namehandle handle name :: calls, s =>
    (run calls (s.namehandle handle name).2).map fun p => (.done (s.namehandle handle name).1 :: p.1, p.2)

end SasyServer.Skynet
