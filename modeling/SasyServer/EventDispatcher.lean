import Mathlib.Data.List.AList

/-!
# The event dispatcher

`service/eventDispatcher.lua`: `_eventType2handler`, a table of the event types, of tables of the addresses, of tables of the
methods that are to be called there. An address is given as a number or as the name of a service, for which
`skynet.localname` has a number; `localname` is that function.

An `AList` is a table, with an order that stands for the one `pairs` goes through it. The value `true` of a method is `()`.
-/

namespace SasyServer.EventDispatcher

/-- The address of a service, as a caller gives it or as a key. -/
inductive Address where
  | number (n : Nat)
  | name (s : String)
  deriving DecidableEq, Repr

variable {ε μ : Type} [DecidableEq ε] [DecidableEq μ]

/-- The methods of an address. -/
abbrev MethodTable (μ : Type) := AList fun _ : μ => Unit

/-- The addresses of an event type. -/
abbrev AddressTable (μ : Type) := AList fun _ : Address => MethodTable μ

/-- `_eventType2handler`. -/
abbrev Handlers (ε μ : Type) := AList fun _ : ε => AddressTable μ

/-- The number of an address. -/
def resolve (localname : String → Option Nat) : Address → Option Nat
  | .number n => some n
  | .name s => localname s

/-- `cmd_addEventListener`. A name without a number is an error. -/
def addEventListener (localname : String → Option Nat) (handlers : Handlers ε μ) (eventType : ε) (address : Address)
    (method : μ) :
    Handlers ε μ :=
  match resolve localname address with
  | none => handlers
  | some n =>
    let addresses := (handlers.lookup eventType).getD ∅
    let methods := (addresses.lookup (.number n)).getD ∅
    handlers.insert eventType (addresses.insert (.number n) (methods.insert method ()))

/-- `cmd_removeEventListener`. -/
def removeEventListener (handlers : Handlers ε μ) (eventType : ε) (address : Address) (method : μ) : Handlers ε μ :=
  match handlers.lookup eventType with
  | none => handlers
  | some addresses =>
    match addresses.lookup address with
    | none => handlers
    | some methods =>
      if method ∈ methods then
        let methods := methods.erase method
        if methods.entries.isEmpty then
          let addresses := addresses.erase address
          if addresses.entries.isEmpty then handlers.erase eventType else handlers.insert eventType addresses
        else handlers.insert eventType (addresses.insert address methods)
      else handlers

/-- `cmd_dispatch`: the addresses and methods the event is sent to, in the order of the sends. -/
def dispatch (handlers : Handlers ε μ) (eventType : ε) : List (Address × μ) :=
  match handlers.lookup eventType with
  | none => []
  | some addresses => addresses.entries.flatMap fun e => e.2.keys.map fun method => (e.1, method)

/-- A call of the dispatcher. -/
inductive Call (ε μ : Type) where
  | addEventListener (eventType : ε) (address : Address) (method : μ)
  | removeEventListener (eventType : ε) (address : Address) (method : μ)
  deriving DecidableEq, Repr

/-- One call. -/
def step (localname : String → Option Nat) (handlers : Handlers ε μ) : Call ε μ → Handlers ε μ
  | .addEventListener eventType address method => addEventListener localname handlers eventType address method
  | .removeEventListener eventType address method => removeEventListener handlers eventType address method

/-- The table after a sequence of calls. -/
def run (localname : String → Option Nat) (calls : List (Call ε μ)) : Handlers ε μ := calls.foldl (step localname) ∅

/-! ## Who is to be told -/

/-- The listeners, by event type, number of the service, and method. -/
abbrev Registry (ε μ : Type) := ε → Nat → μ → Bool

/-- A call adds the listener it names, or takes it away, in whichever form the address is given. -/
def Registry.note (localname : String → Option Nat) (r : Registry ε μ) : Call ε μ → Registry ε μ
  | .addEventListener eventType address method => fun e n m =>
    r e n m || (e = eventType ∧ resolve localname address = some n ∧ m = method)
  | .removeEventListener eventType address method => fun e n m =>
    r e n m && ¬(e = eventType ∧ resolve localname address = some n ∧ m = method)

/-- The listeners that were added in a sequence of calls and not removed since. -/
def registered (localname : String → Option Nat) (calls : List (Call ε μ)) : Registry ε μ :=
  calls.foldl (Registry.note localname) fun _ _ _ => false

/-- After the calls an event goes once to each of its listeners, and to nobody else. -/
def Dispatches (localname : String → Option Nat) (calls : List (Call ε μ)) : Prop :=
  ∀ eventType, (dispatch (run localname calls) eventType).Nodup ∧
    ∀ address method, (address, method) ∈ dispatch (run localname calls) eventType ↔
      ∃ n, address = .number n ∧ registered localname calls eventType n method

end SasyServer.EventDispatcher
