import QueryGate.Engine.Pool

set_option relaxedAutoImplicit false
set_option autoImplicit false

/-!
# Use of a pool

Callers take connections from a pool and give them back, step by step and in any interleaving.
Seen from outside, a caller holds a connection under a name, and gives it back or swaps it for
another.

## Main definitions

* `QueryGate.PoolUse` — a pool with its callers.
* `QueryGate.PoolUse.step` — one step of one caller.
* `QueryGate.Leases` — a pool with connections held under names.
* `QueryGate.Leases.acquire`, `QueryGate.Leases.release` — what is done with names.
-/

namespace QueryGate

/-- How far a caller is. -/
inductive CallerPhase
  /-- It waits for a permit. -/
  | waiting
  /-- It has a permit and no connection yet. -/
  | permitted
  /-- It has a connection. -/
  | connected (c : Connection)
  /-- It has given its connection back, and not its permit yet. -/
  | returning
  deriving DecidableEq, Repr

/-- A pool with its callers, each known by a number. -/
structure PoolUse where
  /-- The pool. -/
  pool : Pool
  /-- The callers. -/
  callers : List (Nat × CallerPhase) := []
  deriving DecidableEq, Repr

namespace PoolUse

/-- One step of one caller. -/
inductive Event
  /-- A caller arrives and waits. -/
  | arrive (caller : Nat)
  /-- A waiting caller takes a permit. -/
  | permit (caller : Nat)
  /-- A waiting caller has waited too long and leaves. -/
  | expire (caller : Nat)
  /-- A caller with a permit takes a connection. -/
  | connect (caller : Nat)
  /-- A caller gives back its connection. -/
  | putBack (caller : Nat)
  /-- A caller gives back its permit and leaves. -/
  | leave (caller : Nat)
  deriving DecidableEq, Repr

/-- The use with a caller in another phase. -/
def move (caller : Nat) (phase : CallerPhase) (u : PoolUse) (pool : Pool) : PoolUse :=
  ⟨pool, (caller, phase) :: u.callers.filter (·.1 != caller)⟩

/-- The use without a caller. -/
def remove (caller : Nat) (u : PoolUse) (pool : Pool) : PoolUse :=
  ⟨pool, u.callers.filter (·.1 != caller)⟩

/-- The use after a step; nothing where the caller cannot take it now. -/
def step (u : PoolUse) : Event → Option PoolUse
  | .arrive caller =>
    match u.callers.lookup caller with
    | none => some (u.move caller .waiting u.pool)
    | some _ => none
  | .permit caller =>
    match u.callers.lookup caller with
    | some .waiting => u.pool.takePermit?.map (u.move caller .permitted)
    | _ => none
  | .expire caller =>
    match u.callers.lookup caller with
    | some .waiting => some (u.remove caller u.pool)
    | _ => none
  | .connect caller =>
    match u.callers.lookup caller with
    | some .permitted =>
      u.pool.takeConnection?.map fun (c, pool) => u.move caller (.connected c) pool
    | _ => none
  | .putBack caller =>
    match u.callers.lookup caller with
    | some (.connected c) => some (u.move caller .returning (u.pool.putConnection c))
    | _ => none
  | .leave caller =>
    match u.callers.lookup caller with
    | some .returning => some (u.remove caller u.pool.putPermit)
    | _ => none

/-- The use after steps; nothing where one of them cannot be taken. -/
def run (u : PoolUse) (events : List Event) : Option PoolUse := events.foldlM step u

end PoolUse

/-- A pool with connections held under names. -/
structure Leases where
  /-- The pool. -/
  pool : Pool
  /-- The connections held. -/
  held : List (String × Connection) := []
  deriving DecidableEq, Repr

namespace Leases

/-- Gives back the connection held under a name; nothing where none is. -/
def release? (name : String) (l : Leases) : Option Leases :=
  (l.held.lookup name).map fun c => ⟨l.pool.giveBack c, l.held.filter (·.1 != name)⟩

/-- Takes a connection and holds it under a name. One that was held under it is given back
after that. -/
def acquire (s : PoolSettings) (name : String) (l : Leases) : Except EngineFault Leases := do
  let (c, pool) ← l.pool.lease s
  let l := { l with pool }
  let l := (l.release? name).getD l
  return { l with held := (name, c) :: l.held }

end Leases

end QueryGate
