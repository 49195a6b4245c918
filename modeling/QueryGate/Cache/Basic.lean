import QueryGate.Span

set_option relaxedAutoImplicit false
set_option autoImplicit false

/-!
# The result cache

A cache holds a bounded number of values for a bounded time. Reading or writing an entry makes it
the most recent one; a new entry in a full cache takes the place of the least recent one. An entry
past its time is dropped when it is next asked for.

## Main definitions

* `QueryGate.Cache` — entries, the most recent first.
* `QueryGate.Cache.get`, `QueryGate.Cache.set` — reading and writing an entry.
-/

namespace QueryGate

/-- The settings of a cache. -/
structure CacheSettings where
  /-- The most entries; at least one is kept. -/
  capacity : Nat := 256
  /-- How long an entry is good for. -/
  ttl : Span := 300 * Span.second
  deriving DecidableEq, Repr

/-- A value with its key and the time it was stored. -/
structure CacheEntry (α : Type) where
  /-- The key. -/
  key : String
  /-- The value. -/
  value : α
  /-- The time it was stored. -/
  storedAt : Nat

/-- Entries, the most recent first. -/
structure Cache (α : Type) where
  /-- The entries. -/
  entries : List (CacheEntry α) := []

namespace Cache

variable {α : Type}

/-- The number of entries. -/
def size (c : Cache α) : Nat := c.entries.length

/-- The entries of other keys. -/
def without (key : String) (entries : List (CacheEntry α)) : List (CacheEntry α) :=
  entries.filter (·.key != key)

/-- The value of a key that is not past its time, and the cache after asking for it. -/
def get (s : CacheSettings) (now : Nat) (key : String) (c : Cache α) : Option α × Cache α :=
  match c.entries.find? (·.key == key) with
  | some e =>
    if now - e.storedAt < s.ttl then (some e.value, ⟨e :: without key c.entries⟩)
    else (none, ⟨without key c.entries⟩)
  | none => (none, c)

/-- The cache after giving a key a value. -/
def set (s : CacheSettings) (now : Nat) (key : String) (value : α) (c : Cache α) : Cache α :=
  ⟨(⟨key, value, now⟩ :: without key c.entries).take (max 1 s.capacity)⟩

/-- The cache without entries. -/
def clear (_ : Cache α) : Cache α := {}

end Cache

end QueryGate
