import Mathlib.Algebra.Group.Int.Defs
import Mathlib.Algebra.Group.Nat.Defs
import QueryGate.Proofs.Filter.Grammar

set_option relaxedAutoImplicit false
set_option autoImplicit false

/-!
# What operands are handed over as

The operands of an object of filters are handed over to the engine one by one, in their order. An
integer among them stays the integer it is as far as the integers of the engine go. Beyond those it
is neither refused nor kept: the nearest double takes its place, and that double stands for other
integers as well.

## Main definitions

* `QueryGate.Json.operands`, `QueryGate.Json.Members.operands` — the values that columns are
  compared with, as they are written.
* `QueryGate.Condition.operands`, `QueryGate.ColumnFilter.operands` — the same as literals.
* `QueryGate.KeepsIntegers` — integers are handed over as the integers they are.
* `QueryGate.HandedOver` — what an integer may be handed over as.

## Main results

* `QueryGate.readFilters_operands` — each operand is written for its literal.
* `QueryGate.Decimal.exists_ne_ofInt_eq` — no double near a large integer is its own.
* `QueryGate.keepsIntegers_iff` — which integers are handed over exactly.
* `QueryGate.not_keepsIntegers_beyond` — not all of them are.
-/

namespace QueryGate

open Outcome

/-! ## Operands -/

namespace Json

/-- The operands of an operator in lower case. A text that is looked for inside is compared with
nothing. -/
def operandsOf (word : String) (operand : Json) : List Json :=
  if word = "contains" then []
  else
    match operand with
    | .arr items => items
    | single => [single]

/-- The operands in the value of a column: itself, the items of a list, or those of its
operators. -/
def operands : Json → List Json
  | .null => []
  | .arr items => items
  | .obj members => members.flatMap fun m => operandsOf (Text.lower m.1) m.2
  | single => [single]

/-- The operands in an object of filters. -/
def Members.operands (members : Members) : List Json := members.flatMap fun m => m.2.operands

end Json

/-- The literals that a condition compares with, in order. -/
def Condition.operands : Condition → List Literal
  | contains _ => []
  | other => other.literals

/-- The literals that a filter compares with, in order. -/
def ColumnFilter.operands (f : ColumnFilter) : List Literal :=
  f.conditions.flatMap Condition.operands

/-- A scalar is the one operand of an operator. -/
lemma Json.operandsOf_of_written {word : String} {j : Json} {l : Literal}
    (hword : word ≠ "contains") (h : Literal.Written j l) : operandsOf word j = [j] := by
  cases h <;> simp [operandsOf, hword]

lemma Condition.Written.operands {word : String} {operand : Json} {c : Condition}
    (h : Written word operand c) :
    List.Forall₂ Literal.Written (Json.operandsOf word operand) c.operands := by
  cases h with
  | eq h =>
    rw [Json.operandsOf_of_written (by decide) h]
    exact .cons h .nil
  | compare op h =>
    have hword : op.word ≠ "contains" := by cases op <;> decide
    rw [Json.operandsOf_of_written hword h]
    exact .cons h .nil
  | inSet h => exact h.each
  | between hlow hhigh => exact .cons hlow (.cons hhigh .nil)
  | contains _ => exact .nil

lemma Condition.AllWritten.operands {value : Json} {conditions : List Condition}
    (h : AllWritten value conditions) :
    List.Forall₂ Literal.Written value.operands (conditions.flatMap Condition.operands) := by
  cases h with
  | null => exact .nil
  | scalar h => cases h <;> exact .cons (by constructor <;> assumption) .nil
  | list h => simpa [Json.operands, Condition.operands, Condition.literals] using h.each
  | operations _ h => exact List.rel_flatMap h fun _ _ hwritten => hwritten.operands

/-- **Each operand is written for its literal**, one by one and in their order. -/
theorem readFilters_operands {members : Json.Members} {filters : List ColumnFilter}
    (h : readFilters members = .ok filters) :
    List.Forall₂ Literal.Written members.operands (filters.flatMap ColumnFilter.operands) := by
  have hwritten := readFilters_eq_ok_iff.mp h
  exact List.rel_flatMap hwritten fun _ _ hfilter => hfilter.conditions.operands

/-! ## Doubles next to large integers -/

namespace Decimal

variable {j k : Nat}

/-- Between the integers of 63 bits and those of 65, doubles are 2048 apart. -/
lemma nearest_of_large (hlow : 2 ^ 63 ≤ k) (hhigh : k < 2 ^ 64) :
    nearest 53 (-1074) k 1 = (roundHalfEven k 2048, 11) := by
  have hne : k ≠ 0 := by omega
  have hlog : k.log2 = 63 := (Nat.log2_eq_iff hne).mpr ⟨hlow, hhigh⟩
  have hlast : lastPlace 53 (-1074) k 1 = 11 := by
    have htop : ¬ k * twoTo (-((63 : Nat) - (0 : Nat) : Int)).toNat <
        1 * twoTo ((63 : Nat) - (0 : Nat) : Int).toNat := by
      change ¬ k * 1 < 1 * 2 ^ 63
      omega
    rw [lastPlace, hlog, show Nat.log2 1 = 0 from rfl, if_neg htop]
    rfl
  rw [nearest, if_neg hne, hlast]
  simp [twoTo]

lemma ofNat_eq_of_large (hj : 2 ^ 63 ≤ j ∧ j < 2 ^ 64) (hk : 2 ^ 63 ≤ k ∧ k < 2 ^ 64)
    (h : roundHalfEven j 2048 = roundHalfEven k 2048) : ofNat j = ofNat k := by
  unfold ofNat ofRatio
  rw [nearest_of_large hj.1 hj.2, nearest_of_large hk.1 hk.2, h]

/-- A large integer is rounded as a neighbour of it is: the one below, except where that one is
nearer to another double. -/
lemma exists_ne_roundHalfEven_eq (hlow : 2 ^ 63 ≤ k) (hhigh : k < 2 ^ 64) :
    ∃ j, j ≠ k ∧ (2 ^ 63 ≤ j ∧ j < 2 ^ 64) ∧ roundHalfEven j 2048 = roundHalfEven k 2048 := by
  by_cases hup : k % 2048 = 0 ∨ k % 2048 = 1025 ∨ (k % 2048 = 1024 ∧ k / 2048 % 2 = 1)
  · refine ⟨k + 1, by omega, by omega, ?_⟩
    unfold roundHalfEven
    grind
  · refine ⟨k - 1, by omega, by omega, ?_⟩
    unfold roundHalfEven
    grind

/-- **No double near a large integer is its own**: another integer is rounded to it as well. -/
theorem exists_ne_ofInt_eq {n : Int} (hlow : 2 ^ 63 ≤ n) (hhigh : n < 2 ^ 64) :
    ∃ m : Int, m ≠ n ∧ 2 ^ 63 ≤ m ∧ ofInt m = ofInt n := by
  obtain ⟨k, rfl⟩ := Int.eq_ofNat_of_zero_le (show 0 ≤ n by omega)
  have hk : 2 ^ 63 ≤ k ∧ k < 2 ^ 64 := by omega
  obtain ⟨j, hne, hj, hround⟩ := exists_ne_roundHalfEven_eq hk.1 hk.2
  have hofInt : ∀ i : Nat, ofInt (i : Int) = ofNat i := by
    intro i
    have hsign : ¬ (i : Int) < 0 := by omega
    simp [ofInt, withSign, hsign]
  refine ⟨j, by omega, by omega, ?_⟩
  rw [hofInt, hofInt, ofNat_eq_of_large hj hk hround]

end Decimal

/-! ## Integers -/

lemma Word.isSigned_iff {n : Int} : isSigned n = true ↔ -2 ^ 63 ≤ n ∧ n < 2 ^ 63 := by
  have hword : isSigned n = true ↔ minSigned ≤ n ∧ n ≤ maxSigned := by simp [isSigned]
  rw [hword]
  unfold minSigned maxSigned
  omega

/-- Integers are handed over as the integers they are. -/
def KeepsIntegers (members : Json.Members) (filters : List ColumnFilter) : Prop :=
  List.Forall₂ (fun j l => ∀ n : Int, j = .int n → l = .integer n) members.operands
    (filters.flatMap ColumnFilter.operands)

/-- In an object of filters that is read, an integer is handed over as a literal. -/
def HandedOver (n : Int) (l : Literal) : Prop :=
  ∃ (members : Json.Members) (filters : List ColumnFilter), readFilters members = .ok filters ∧
    (Json.int n, l) ∈ members.operands.zip (filters.flatMap ColumnFilter.operands)

lemma Literal.written_int_iff {n : Int} {l : Literal} :
    Written (.int n) l ↔ l = if Word.isSigned n then .integer n else .float (Decimal.ofInt n) := by
  constructor
  · intro h
    cases h with
    | integer hword => rw [if_pos hword]
    | large hword => rw [if_neg (by simp [hword])]
  · rintro rfl
    split_ifs with hword
    · exact .integer hword
    · exact .large (by simpa using hword)

/-- An integer of the engine is kept, and no other one is. -/
lemma Literal.Written.eq_integer_iff {n : Int} {l : Literal} (h : Written (.int n) l) :
    l = .integer n ↔ Word.isSigned n = true := by
  rw [written_int_iff.mp h]
  split_ifs with hword <;> simp [hword]

lemma keeps_iff_of_written {operands : List Json} {literals : List Literal}
    (h : List.Forall₂ Literal.Written operands literals) :
    List.Forall₂ (fun j l => ∀ n : Int, j = .int n → l = .integer n) operands literals ↔
      ∀ n, Json.int n ∈ operands → Word.isSigned n = true := by
  induction h with
  | nil => simp
  | @cons j l operands literals hwritten _ ih =>
    have hfirst : (∀ n : Int, j = .int n → l = .integer n) ↔
        ∀ n : Int, j = .int n → Word.isSigned n = true := by
      refine forall₂_congr fun n hj => ?_
      subst hj
      exact hwritten.eq_integer_iff
    rw [List.forall₂_cons, ih, hfirst]
    simp only [List.mem_cons, or_imp, forall_and, eq_comm]

/-- An integer is handed over as what it is written for, and every integer is. -/
lemma handedOver_iff {n : Int} {l : Literal} :
    HandedOver n l ↔ Literal.Written (.int n) l := by
  constructor
  · rintro ⟨members, filters, h, hzip⟩
    exact List.forall₂_zip (readFilters_operands h) hzip
  · intro h
    let f : ColumnFilter := ⟨⟨"id", by decide⟩, [.scalar l]⟩
    have hread : readFilters [("id", .int n)] = .ok [f] :=
      readFilters_eq_ok_iff.mpr (.cons ⟨rfl, .scalar h⟩ .nil)
    exact ⟨[("id", .int n)], [f], hread, by
      simp [Json.Members.operands, Json.operands, ColumnFilter.operands, f, Condition.operands,
        Condition.literals]⟩

/-- Of the integers that can be written, those of the engine have a literal of their own. -/
lemma handedOver_injective_iff {n : Int} (hlow : Word.minSigned ≤ n)
    (hhigh : n ≤ Word.maxUnsigned) :
    (∀ m l, HandedOver n l → HandedOver m l → m = n) ↔ Word.isSigned n = true := by
  simp only [handedOver_iff, Literal.written_int_iff]
  constructor
  · intro hown
    by_contra hword
    have hlarge : 2 ^ 63 ≤ n ∧ n < 2 ^ 64 := by
      rw [Word.isSigned_iff] at hword
      unfold Word.minSigned at hlow
      unfold Word.maxUnsigned at hhigh
      omega
    obtain ⟨m, hne, hm, hsame⟩ := Decimal.exists_ne_ofInt_eq hlarge.1 hlarge.2
    have hbeyond : ¬ Word.isSigned m = true := by
      rw [Word.isSigned_iff]
      omega
    refine hne (hown m (.float (Decimal.ofInt n)) ?_ ?_)
    · rw [if_neg hword]
    · rw [if_neg hbeyond, hsame]
  · intro hword m l hn hm
    rw [if_pos hword] at hn
    rw [hn] at hm
    split_ifs at hm
    exact (Literal.integer.inj hm).symm

/-- **Integers are handed over exactly as far as those of the engine go.** An object of filters
keeps its integers when all of them are of the engine. No integer is refused for its size, and one
that is not of the engine shares its literal with a different one.

**Proof sketch.** An object of filters is read operand by operand, each written for its literal
(`readFilters_operands`). An integer is written for itself if the engine has it, and for a
floating-point number otherwise. Beyond the engine's integers these numbers are more than a thousand
apart, so that two integers share one (`handedOver_injective_iff`). -/
theorem keepsIntegers_iff {members : Json.Members} {filters : List ColumnFilter}
    (h : readFilters members = .ok filters) :
    (KeepsIntegers members filters ↔
        ∀ n, Json.int n ∈ members.operands → Word.isSigned n = true) ∧
      ∀ n : Int, (∃ l, HandedOver n l) ∧
        (Word.minSigned ≤ n → n ≤ Word.maxUnsigned →
          ((∀ m l, HandedOver n l → HandedOver m l → m = n) ↔ Word.isSigned n = true)) := by
  refine ⟨keeps_iff_of_written (readFilters_operands h), fun n => ⟨?_, handedOver_injective_iff⟩⟩
  exact ⟨_, handedOver_iff.mpr (Literal.written_int_iff.mpr rfl)⟩

/-- The first and the last of the engine's integers, and the one above them. -/
theorem keepsIntegers_iff_bounds :
    let members := [("year", .obj [("between",
      .arr [.int (-9223372036854775808), .int 9223372036854775807])])]
    ∃ filters, readFilters members = .ok filters ∧ KeepsIntegers members filters ∧
      ¬ ∀ m l, HandedOver 9223372036854775808 l → HandedOver m l → m = 9223372036854775808 := by
  intro members
  obtain ⟨filters, hread⟩ : ∃ filters, readFilters members = .ok filters := ⟨_, rfl⟩
  obtain ⟨hkeeps, hown⟩ := keepsIntegers_iff hread
  have hoperands : Json.Members.operands members =
      [.int (-9223372036854775808), .int 9223372036854775807] := rfl
  refine ⟨filters, hread, hkeeps.mpr ?_, fun hshared => ?_⟩
  · rw [hoperands]
    simp [Word.isSigned_iff]
  · have hword := ((hown 9223372036854775808).2 (by decide) (by decide)).mp hshared
    exact absurd hword (by decide)

/-- Two integers above those of the engine are handed over as one double. -/
theorem not_keepsIntegers_beyond :
    let members := [("id", .arr [.int 9223372036854775809, .int 9223372036854775810])]
    ∃ x, readFilters members = .ok [⟨⟨"id", by decide⟩, [.inSet [.float x, .float x]]⟩] ∧
      ¬ KeepsIntegers members [⟨⟨"id", by decide⟩, [.inSet [.float x, .float x]]⟩] := by
  intro members
  refine ⟨Decimal.ofInt 9223372036854775809, rfl, fun hkeeps => ?_⟩
  rcases hkeeps with _ | ⟨hfirst, -⟩
  exact absurd (hfirst _ rfl) nofun

end QueryGate
