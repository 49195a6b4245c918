import QueryGate.Digest.Sha256
import QueryGate.Json.Writer

set_option relaxedAutoImplicit false
set_option autoImplicit false

/-!
# Cache keys

The key of an answer is the operation and a digest of the operation with its arguments. Arguments
are written canonically, so that the order of keys in an object does not matter.

## Main definitions

* `QueryGate.cachePreimage` — the text that is digested.
* `QueryGate.cacheKey` — the key.
-/

namespace QueryGate

/-- The text that is digested: the operation, a null character, and the canonical arguments. -/
def cachePreimage (operation : String) (args : Json) : String :=
  operation ++ "\x00" ++ args.canonical

/-- The key of an operation with its arguments. -/
def cacheKey (operation : String) (args : Json) : String :=
  operation ++ ":" ++
    Digest.hex (Digest.sha256 (cachePreimage operation args).toUTF8.toList)

end QueryGate
