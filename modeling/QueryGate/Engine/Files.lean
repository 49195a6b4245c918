import QueryGate.Engine.Cell
import QueryGate.Engine.Pool
import QueryGate.Engine.RowSet
import QueryGate.Text.Split

set_option relaxedAutoImplicit false
set_option autoImplicit false

/-!
# The engine and its database files

Every database file is opened when it is first needed, and then has a pool of connections of its
own. A file that cannot be opened is tried again the next time. A statement runs on a connection of
the pool, under a deadline.

## Main definitions

* `QueryGate.Execution` — the course of a statement inside the database.
* `QueryGate.Execution.outcome` — what comes of it under a deadline.
* `QueryGate.Files` — the pools that are open, and what the database will do.
* `QueryGate.Files.query`, `QueryGate.Files.warm` — a statement, and opening files beforehand.
-/

namespace QueryGate

/-- The course of a statement inside the database. -/
structure Execution where
  /-- The names of the columns. -/
  columns : List String := []
  /-- The rows. -/
  rows : List (List Cell) := []
  /-- Why the statement cannot be prepared, if it cannot. -/
  unprepared : Option String := none
  /-- Why the statement cannot be started, if it cannot. -/
  unstarted : Option String := none
  /-- The number of rows after which the statement breaks off, and why, if it does. -/
  broken : Option (Nat × String) := none
  /-- Whether the statement runs past every deadline. -/
  endless : Bool := false

namespace Execution

/-- Whether the statement is prepared and has its parameters bound. -/
def isBound (e : Execution) : Bool := e.unprepared.isNone

/-- Why the statement has no rows, if it has none. The end of the rows is asked for like a row. -/
def refusal? (e : Execution) : Option String :=
  match e.unprepared, e.unstarted, e.broken with
  | some reason, _, _ => some reason
  | none, some reason, _ => some reason
  | none, none, some (after, reason) => if after ≤ e.rows.length then some reason else none
  | none, none, none => none

/-- What comes of a statement under a deadline. -/
def outcome (deadline : Span) (e : Execution) : Except EngineFault RowSet :=
  if e.isBound && e.endless then .error (.timeout deadline)
  else
    match e.refusal? with
    | some reason => .error (.engine reason)
    | none => .ok ⟨e.columns, e.rows.map (·.map Cell.toJson)⟩

end Execution

/-- A statement that was prepared and bound, as the database saw it. -/
structure Executed where
  /-- The text. -/
  sql : String
  /-- The literals. -/
  params : List Literal

/-- The parts of a path. Two paths with the same parts are the same file: slashes may be repeated
and parts of one dot left out, except at the start. -/
def pathParts (path : String) : List String :=
  match Text.fields '/' path with
  | [] => []
  | first :: rest =>
    let rest := rest.filter fun part => part != "" && part != "."
    if first == "" then (if path == "" then [] else "/" :: rest) else first :: rest

/-- The pools that are open, what the database will do, and what it was asked to do. -/
structure Files where
  /-- The pools, by the parts of their paths. -/
  pools : List (List String × Pool) := []
  /-- What goes wrong when files are opened, one for each; after that nothing does. -/
  openings : List (Option String) := []
  /-- What goes wrong when connections are copied, one for each; after that nothing does. -/
  copies : List (Option String) := []
  /-- The courses of statements, one for each; after that they have no rows. -/
  executions : List Execution := []
  /-- The files opened, the last first. -/
  opened : List String := []
  /-- The statements bound, the last first. -/
  executed : List Executed := []

namespace Files

/-- The files with a pool for a path that is open already. -/
def serve (s : PoolSettings) (path : String) (f : Files) : Except EngineFault Files :=
  let (pool, copies) := Pool.opened s f.copies
  pool.map fun pool => { f with pools := (pathParts path, pool) :: f.pools, copies }

/-- The pool of a path, opened if need be. -/
def pool (s : PoolSettings) (path : String) (f : Files) : Except EngineFault Pool × Files :=
  match f.pools.lookup (pathParts path) with
  | some pool => (.ok pool, f)
  | none =>
    let problem := f.openings.head?.join
    let f := { f with opened := path :: f.opened, openings := f.openings.tail }
    match problem with
    | some reason => (.error (.connection (path ++ ": " ++ reason)), f)
    | none =>
      let (pool, copies) := Pool.opened s f.copies
      let f := { f with copies }
      match pool with
      | .error fault => (.error fault, f)
      | .ok pool => (.ok pool, { f with pools := (pathParts path, pool) :: f.pools })

/-- A statement on a connection of its own. -/
def execute (s : PoolSettings) (statement : Executed) (f : Files) :
    Except EngineFault RowSet × Files :=
  let course := f.executions.headD {}
  (course.outcome s.queryTimeout,
    { f with
      executions := f.executions.tail
      executed := if course.isBound then statement :: f.executed else f.executed })

/-- A statement on a file. The connection is free again when its statement has ended. -/
def query (s : PoolSettings) (path : String) (statement : Executed) (f : Files) :
    Except EngineFault RowSet × Files :=
  match f.pool s path with
  | (.error fault, f) => (.error fault, f)
  | (.ok pool, f) =>
    match pool.lease s with
    | .error fault => (.error fault, f)
    | .ok _ => f.execute s statement

/-- Opens files beforehand. Those that cannot be opened are passed over. -/
def warm (s : PoolSettings) (paths : List String) (f : Files) : Files :=
  paths.foldl (fun f path => (f.pool s path).2) f

end Files

/-- The name of the engine. -/
def engineName : String := "duckdb"

end QueryGate
