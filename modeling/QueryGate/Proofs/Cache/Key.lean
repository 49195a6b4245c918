import Mathlib.Data.List.Basic
import QueryGate.Cache.Key

set_option relaxedAutoImplicit false
set_option autoImplicit false

/-!
# What a key stands for

The key of an answer is the operation with a digest in hexadecimal. Two calls of one operation have
the same key only if what is digested for them has the same digest, and the same is digested for
them only if their arguments have the same canonical text.

## Main definitions

* `QueryGate.cacheMessage` — the bytes that are digested.

## Main results

* `QueryGate.Digest.hex_injective` — bytes are told apart by their hexadecimal digits.
* `QueryGate.sha256_eq_of_cacheKey` — equal keys have equal digests.
* `QueryGate.canonical_eq_of_cacheMessage` — equal bytes come from equal canonical texts.
-/

namespace QueryGate

/-- The bytes that are digested for the key of an operation with its arguments. -/
def cacheMessage (operation : String) (args : Json) : List UInt8 :=
  (cachePreimage operation args).toUTF8.toList

/-! ## Bytes -/

/-- The bytes from a position on, after those gathered before. -/
lemma byteList_loop (bytes : ByteArray) (i : Nat) (gathered : List UInt8) :
    ByteArray.toList.loop bytes i gathered =
      gathered.reverse ++ bytes.data.toList.drop i := by
  fun_induction ByteArray.toList.loop bytes i gathered with
  | case1 i gathered h ih =>
    have hi : i < bytes.data.toList.length := by simpa using h
    have hget : bytes.get! i = bytes.data.toList[i] := by
      simp [ByteArray.get!, getElem!_pos, h]
    rw [ih, List.drop_eq_getElem_cons hi, List.reverse_cons, List.append_assoc, hget]
    rfl
  | case2 i gathered h =>
    have hi : bytes.data.toList.length ≤ i := by simpa using h
    rw [List.drop_eq_nil_of_le hi, List.append_nil]

/-- An array of bytes is told apart by its list. -/
lemma byteList_injective : Function.Injective ByteArray.toList := by
  intro x y h
  have hdata : x.data.toList = y.data.toList := by simpa [ByteArray.toList, byteList_loop] using h
  exact ByteArray.ext (Array.toList_inj.mp hdata)

namespace Digest

/-- The hexadecimal digits of a byte. -/
def hexDigits (b : UInt8) : List Char :=
  [Nat.digitChar (b.toNat / 16), Nat.digitChar (b.toNat % 16)]

/-- A byte is told apart by its digits. -/
lemma hexDigits_injective : Function.Injective hexDigits := by
  intro x y h
  have hdigit : ∀ m < 16, ∀ n < 16, Nat.digitChar m = Nat.digitChar n → m = n := by decide
  have hx := x.toNat_lt
  have hy := y.toNat_lt
  rw [hexDigits, hexDigits, List.cons.injEq, List.cons.injEq] at h
  have hhigh := hdigit _ (by omega) _ (by omega) h.1
  have hlow := hdigit _ (Nat.mod_lt _ (by decide)) _ (Nat.mod_lt _ (by decide)) h.2.1
  exact UInt8.toNat_inj.mp (by omega)

/-- Bytes are told apart by their digits, which are two for each. -/
lemma flatMap_hexDigits_injective : Function.Injective (List.flatMap hexDigits) := by
  intro xs
  induction xs with
  | nil =>
    rintro (_ | ⟨y, ys⟩) h
    · rfl
    · exact absurd h (by simp [hexDigits])
  | cons x xs ih =>
    rintro (_ | ⟨y, ys⟩) h
    · exact absurd h (by simp [hexDigits])
    · obtain ⟨hfirst, hrest⟩ := List.append_inj h rfl
      rw [hexDigits_injective hfirst, ih hrest]

/-- Bytes are told apart by their hexadecimal text. -/
lemma hex_injective : Function.Injective hex :=
  fun _ _ h => flatMap_hexDigits_injective (String.ofList_injective h)

end Digest

/-! ## Keys -/

variable {operation : String} {args args' : Json}

/-- Equal keys have equal digests. -/
lemma sha256_eq_of_cacheKey (h : cacheKey operation args = cacheKey operation args') :
    Digest.sha256 (cacheMessage operation args) = Digest.sha256 (cacheMessage operation args') :=
  Digest.hex_injective (by simpa [cacheKey, cacheMessage] using h)

/-- Equal bytes come from equal canonical texts. -/
lemma canonical_eq_of_cacheMessage
    (h : cacheMessage operation args = cacheMessage operation args') :
    args.canonical = args'.canonical := by
  have hpreimage : cachePreimage operation args = cachePreimage operation args' :=
    String.toByteArray_inj.mp (byteList_injective h)
  simpa [cachePreimage] using hpreimage

/-- The same bytes are digested for arguments with one canonical text. -/
lemma cacheMessage_congr (h : args.canonical = args'.canonical) :
    cacheMessage operation args = cacheMessage operation args' := by
  rw [cacheMessage, cacheMessage, cachePreimage, cachePreimage, h]

/-- Arguments with one canonical text have one key. -/
lemma cacheKey_congr (h : args.canonical = args'.canonical) :
    cacheKey operation args = cacheKey operation args' := by
  rw [cacheKey, cacheKey, cachePreimage, cachePreimage, h]

end QueryGate
