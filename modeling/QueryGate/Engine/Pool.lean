import QueryGate.Engine.Fault

set_option relaxedAutoImplicit false
set_option autoImplicit false

/-!
# Pools of connections

A pool holds a fixed number of connections to one database. A connection is taken in two steps, a
permit first and then a connection, and given back in two steps, the connection first and then the
permit; so whoever has a permit finds a connection.

## Main definitions

* `QueryGate.Pool` — the permits and connections that are free.
* `QueryGate.Pool.opened` — the pool of a number of connections, some of which may not be made.
* `QueryGate.Pool.takePermit?`, `QueryGate.Pool.takeConnection?` — the steps of taking.
* `QueryGate.Pool.putConnection`, `QueryGate.Pool.putPermit` — the steps of giving back.
* `QueryGate.Pool.lease`, `QueryGate.Pool.giveBack` — both steps at once.
-/

namespace QueryGate

/-- A connection, known by its number. -/
abbrev Connection := Nat

/-- The settings of a pool. -/
structure PoolSettings where
  /-- The number of connections; there is at least one. -/
  size : Nat := 4
  /-- How long a caller waits for a connection. -/
  acquireTimeout : Span := 5 * Span.second
  /-- How long a statement may run. -/
  queryTimeout : Span := 30 * Span.second
  deriving DecidableEq, Repr

/-- The number of connections that a pool really has. -/
def PoolSettings.connections (s : PoolSettings) : Nat := max 1 s.size

/-- The permits and connections that are free. -/
structure Pool where
  /-- The connections that nobody has, the last given back first. -/
  idle : List Connection
  /-- The number of permits that nobody has. -/
  permits : Nat
  deriving DecidableEq, Repr

namespace Pool

/-- The pool of `n` connections, all free. -/
def full (n : Nat) : Pool := ⟨List.range n, n⟩

/-- Makes copies of a connection, `n` of them. `attempts` says for each attempt from now on what
goes wrong with it, if something does; attempts beyond the list succeed. What is left of the list
goes with the result. -/
def copies : Nat → List (Option String) → Except String Unit × List (Option String)
  | 0, attempts => (.ok (), attempts)
  | _ + 1, some reason :: attempts => (.error reason, attempts)
  | n + 1, attempts => copies n attempts.tail

/-- The pool of a database that is open already: the first connection is there, and the others are
copies of it. -/
def opened (s : PoolSettings) (attempts : List (Option String)) :
    Except EngineFault Pool × List (Option String) :=
  match copies (s.connections - 1) attempts with
  | (.ok (), attempts) => (.ok (full s.connections), attempts)
  | (.error reason, attempts) => (.error (.connection reason), attempts)

/-- The pool after taking a permit, if one is free. -/
def takePermit? (p : Pool) : Option Pool :=
  match p.permits with
  | 0 => none
  | n + 1 => some { p with permits := n }

/-- A connection that nobody has, and the pool without it. -/
def takeConnection? (p : Pool) : Option (Connection × Pool) :=
  match p.idle with
  | [] => none
  | c :: rest => some (c, { p with idle := rest })

/-- The pool after giving back a connection. -/
def putConnection (c : Connection) (p : Pool) : Pool := { p with idle := c :: p.idle }

/-- The pool after giving back a permit. -/
def putPermit (p : Pool) : Pool := { p with permits := p.permits + 1 }

/-- A connection for a caller that nobody interrupts, and the pool without it. Where no permit
becomes free in time the pool is exhausted. -/
def lease (s : PoolSettings) (p : Pool) : Except EngineFault (Connection × Pool) :=
  match p.takePermit? with
  | none => .error (.poolExhausted s.acquireTimeout)
  | some p =>
    match p.takeConnection? with
    | none => .error (.connection "pool permit without idle connection")
    | some leased => .ok leased

/-- The pool after giving back a connection and its permit. -/
def giveBack (c : Connection) (p : Pool) : Pool := (p.putConnection c).putPermit

end Pool

end QueryGate
