import QueryGate.Proofs.Cache.Key
import QueryGate.Proofs.Json.Reordering
import QueryGate.Proofs.Text.Fields

set_option relaxedAutoImplicit false
set_option autoImplicit false

/-!
# When two calls share a key

The bytes that are digested for a call tell its operation apart from its arguments, whatever is
written in them: the canonical text holds no null character, so the last one is the one between the
two. Two calls share them exactly when they are one operation on the same arguments, up to the
order of keys.

## Main definitions

* `QueryGate.SameCall` — one operation on the same arguments, up to the order of keys.

## Main results

* `QueryGate.cacheMessage_eq_iff`, `QueryGate.cacheKey_eq_iff` — equal bytes, and equal keys.
* `QueryGate.keys_canonical` — the keys of calls are canonical and unambiguous.
-/

namespace QueryGate

open Json

/-! ## Separators -/

/-- A canonical text holds no null character. -/
lemma null_not_mem_canonical (a : Json) : '\x00' ∉ a.canonical.toList := by
  intro hmem
  rw [canonical, render, String.toList_ofList] at hmem
  exact absurd (shown_chars a.sorted _ hmem) (by decide)

/-- Hexadecimal digits are no colons. -/
lemma colon_not_mem_hex (bytes : List UInt8) : ':' ∉ (Digest.hex bytes).toList := by
  have hdigit : ∀ n < 16, ':' ≠ Nat.digitChar n := by decide
  intro hmem
  rw [Digest.hex, String.toList_ofList, List.mem_flatMap] at hmem
  obtain ⟨b, -, hb⟩ := hmem
  have hb' := b.toNat_lt
  simp only [List.mem_cons, List.not_mem_nil, or_false] at hb
  rcases hb with hhigh | hlow
  · exact hdigit _ (by omega) hhigh
  · exact hdigit _ (Nat.mod_lt _ (by decide)) hlow

/-! ## Equal bytes and equal keys -/

variable {o o' : String} {a b : Json}

/-- Equal bytes come from one operation and one canonical text. -/
lemma cacheMessage_eq_iff :
    cacheMessage o a = cacheMessage o' b ↔ o = o' ∧ a.canonical = b.canonical := by
  constructor
  · intro h
    have hpreimage : cachePreimage o a = cachePreimage o' b :=
      String.toByteArray_inj.mp (byteList_injective h)
    exact Text.eq_of_last_sep (null_not_mem_canonical a) (null_not_mem_canonical b) hpreimage
  · rintro ⟨rfl, h⟩
    exact cacheMessage_congr h

/-- Equal keys come from one operation and one digest. -/
lemma cacheKey_eq_iff : cacheKey o a = cacheKey o' b ↔
    o = o' ∧ Digest.sha256 (cacheMessage o a) = Digest.sha256 (cacheMessage o' b) := by
  constructor
  · intro h
    obtain ⟨rfl, -⟩ := Text.eq_of_last_sep (colon_not_mem_hex _) (colon_not_mem_hex _) h
    exact ⟨rfl, sha256_eq_of_cacheKey h⟩
  · rintro ⟨rfl, h⟩
    exact congrArg (fun digest => o ++ ":" ++ Digest.hex digest) h

/-- Two calls of one operation with the same arguments, up to the order of keys. Numbers are
compared as they are printed. -/
def SameCall (o : String) (a : Json) (o' : String) (b : Json) : Prop :=
  o = o' ∧ Reordered WrittenAlike a b

/-- **The keys of calls are canonical and unambiguous.** The bytes that are digested for two calls
are equal exactly when these are one operation on the same arguments, up to the order of keys at
every depth. The same holds of their keys, as far as digests tell the two rows of bytes apart.

**Proof sketch.** The message is the operation, a line end and the canonical text, and an operation
never brings a line end into the text behind it (`cacheMessage_eq_iff`). Two values have one
canonical text just if they are equal up to the order of keys (`Json.canonical_eq_iff`): sorting the
keys takes the order away, and a text with sorted keys can be read back in only one way. Keys are
digests of messages, which tell these apart by assumption. -/
theorem keys_canonical (o o' : String) {a b : Json} (ha : a.Finite) (hb : b.Finite)
    (hdistinct : b.Distinct) :
    (cacheMessage o a = cacheMessage o' b ↔ SameCall o a o' b) ∧
      ((Digest.sha256 (cacheMessage o a) = Digest.sha256 (cacheMessage o' b) →
          cacheMessage o a = cacheMessage o' b) →
        (cacheKey o a = cacheKey o' b ↔ SameCall o a o' b)) := by
  have hmessage : cacheMessage o a = cacheMessage o' b ↔ SameCall o a o' b := by
    rw [cacheMessage_eq_iff, canonical_eq_iff ha hb hdistinct, SameCall]
  refine ⟨hmessage, fun hcollision => ?_⟩
  rw [cacheKey_eq_iff, ← hmessage]
  constructor
  · exact fun h => hcollision h.2
  · exact fun h => ⟨(hmessage.mp h).1, congrArg Digest.sha256 h⟩

/-- Arguments of a call. -/
def germanyFirst : Json :=
  .obj [("where", .obj [("country_name", .str "Germany"), ("year", .int 2020)]), ("limit", .int 5)]

/-- The same arguments with the keys of both objects in another order. -/
def germanyLast : Json :=
  .obj [("limit", .int 5), ("where", .obj [("year", .int 2020), ("country_name", .str "Germany")])]

/-- The two share a key as arguments of one operation, and share none of two operations. -/
theorem keys_canonical_germany :
    germanyFirst.Finite ∧ germanyLast.Finite ∧ germanyLast.Distinct ∧
      SameCall "query" germanyFirst "query" germanyLast ∧
      cacheKey "query" germanyFirst = cacheKey "query" germanyLast ∧
      cacheMessage "query" germanyFirst ≠ cacheMessage "yoy" germanyLast := by
  have both : ∀ {P : Json → Prop} {k l : String} {v w : Json}, P v → P w →
      ∀ m ∈ [(k, v), (l, w)], P m.2 := fun hv hw =>
    List.forall_mem_cons.mpr ⟨hv, List.forall_mem_singleton.mpr hw⟩
  have hfirst : germanyFirst.Finite := .obj (both (.obj (both (.str _) (.int _))) (.int _))
  have hlast : germanyLast.Finite := .obj (both (.int _) (.obj (both (.int _) (.str _))))
  have hdistinct : germanyLast.Distinct :=
    .obj (by decide) (both (.bare rfl) (.obj (by decide) (both (.bare rfl) (.str _))))
  have hvalues : List.Forall₂ (Reordered WrittenAlike) [.str "Germany", .int 2020]
      [.str "Germany", .int 2020] :=
    .cons (.str "Germany") (.cons (.number rfl rfl rfl) .nil)
  have hinner : Reordered WrittenAlike
      (.obj [("country_name", .str "Germany"), ("year", .int 2020)])
      (.obj [("year", .int 2020), ("country_name", .str "Germany")]) :=
    .obj (List.Perm.swap ..) rfl hvalues
  have hsame : SameCall "query" germanyFirst "query" germanyLast :=
    ⟨rfl, .obj (List.Perm.swap ..) rfl (.cons hinner (.cons (.number rfl rfl rfl) .nil))⟩
  obtain ⟨hmessage, hkey⟩ := keys_canonical "query" "query" hfirst hlast hdistinct
  obtain ⟨hother, -⟩ := keys_canonical "query" "yoy" hfirst hlast hdistinct
  refine ⟨hfirst, hlast, hdistinct, hsame, ?_, fun h => ?_⟩
  · exact (hkey fun _ => hmessage.mpr hsame).mpr hsame
  · exact absurd (hother.mp h).1 (by decide)

end QueryGate
