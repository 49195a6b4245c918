import Mathlib

set_option relaxedAutoImplicit false
set_option autoImplicit false

/-!
# The order of doubles

Doubles are compared by a rank: their sign first, then their exponent and their digits. What is no
number has no rank of its own and is neither above nor below anything. A list that is sorted by a
comparison of doubles is sorted by their ranks, as long as all of them are numbers.

## Main definitions

* `QueryGate.Decimal.rank` — where a double stands among the numbers.
* `QueryGate.Decimal.scoreKey` — where a score with a name stands among others.

## Main results

* `QueryGate.Decimal.lt_iff_rank`, `QueryGate.Decimal.le_iff_rank` — doubles compare by their ranks.
* `QueryGate.Decimal.rank_ne_bot_of_le` — what is at least something is a number.
* `QueryGate.Decimal.scoreKey_lt_iff` — scores that are numbers compare first and then the names.
* `QueryGate.pairwise_mergeSort_of_key` — sorting by a comparison that is one of keys.
* `QueryGate.mem_take_mergeSort_or` — the first few of a list that is sorted so.
-/

namespace QueryGate

namespace Decimal

open Float.Model

/-- Where an unpacked double stands among the numbers. What is no number stands below all. -/
def rankOf : UnpackedFloat → WithBot (ℤ ×ₗ ℤ ×ₗ ℤ)
  | .notANumber => ⊥
  | .infinity sign => ↑(toLex (sign.apply 2, toLex ((0 : ℤ), (0 : ℤ))))
  | .zero _ => ↑(toLex ((0 : ℤ), toLex ((0 : ℤ), (0 : ℤ))))
  | .finite sign digits exponent _ =>
    ↑(toLex (sign.apply 1, toLex (sign.apply exponent, sign.apply digits)))

/-- Where a double stands among the numbers. -/
def rank (x : Float) : WithBot (ℤ ×ₗ ℤ ×ₗ ℤ) := rankOf x.toModel.unpack

section

variable {e e' : ℤ} {m m' : ℕ}

lemma then_compare_ne_gt_iff :
    (compare e e').then (compare m m') ≠ .gt ↔ e < e' ∨ e = e' ∧ m ≤ m' := by
  rw [Ne, Ordering.then_eq_gt, compare_gt_iff_gt, compare_eq_iff_eq, compare_gt_iff_gt]
  omega

lemma then_compare_ne_lt_iff :
    (compare e e').then (compare m m') ≠ .lt ↔ e' < e ∨ e = e' ∧ m' ≤ m := by
  rw [Ne, Ordering.then_eq_lt, compare_lt_iff_lt, compare_eq_iff_eq, compare_lt_iff_lt]
  omega

end

lemma lt_iff_rankOf (a b : UnpackedFloat) :
    a.lt b = true ↔ rankOf a ≠ ⊥ ∧ rankOf a < rankOf b := by
  rcases a with (_ | _) | _ | _ | ⟨_ | _, m, e, hm⟩ <;>
    rcases b with (_ | _) | _ | _ | ⟨_ | _, m', e', hm'⟩ <;>
    dsimp only [UnpackedFloat.lt, UnpackedFloat.compare, rankOf, UnpackedFloat.Sign.apply] <;>
    simp [Prod.Lex.lt_iff, Ordering.then_eq_lt, compare_lt_iff_lt, Ordering.then_eq_gt,
      compare_gt_iff_gt]
  case infinity.negative.infinity.positive => decide

lemma le_iff_rankOf (a b : UnpackedFloat) :
    a.le b = true ↔ rankOf a ≠ ⊥ ∧ rankOf a ≤ rankOf b := by
  rcases a with (_ | _) | _ | _ | ⟨_ | _, m, e, hm⟩ <;>
    rcases b with (_ | _) | _ | _ | ⟨_ | _, m', e', hm'⟩ <;>
    dsimp only [UnpackedFloat.le, UnpackedFloat.compare, rankOf, UnpackedFloat.Sign.apply] <;>
    simp [Prod.Lex.le_iff, ← Ordering.ne_gt_iff_isLE, then_compare_ne_gt_iff]
  case infinity.positive.infinity.negative => decide
  case finite.negative.finite.negative =>
    rw [← Ordering.ne_lt_iff_isGE]
    exact then_compare_ne_lt_iff

variable {x y : Float}

/-- A double is less than another one when it is a number of lower rank. -/
lemma lt_iff_rank : x < y ↔ rank x ≠ ⊥ ∧ rank x < rank y := by
  have hunpack : x < y ↔ x.toModel.unpack.lt y.toModel.unpack = true := decide_eq_true_iff
  rw [hunpack, lt_iff_rankOf, rank, rank]

/-- A double is at most another one when it is a number and no number of lower rank is. -/
lemma le_iff_rank : x ≤ y ↔ rank x ≠ ⊥ ∧ rank x ≤ rank y := by
  have hunpack : x ≤ y ↔ x.toModel.unpack.le y.toModel.unpack = true := decide_eq_true_iff
  rw [hunpack, le_iff_rankOf, rank, rank]

/-- What is at least something is a number. -/
lemma rank_ne_bot_of_le (h : x ≤ y) : rank y ≠ ⊥ := by
  obtain ⟨hx, hle⟩ := le_iff_rank.mp h
  exact fun hy => hx (le_bot_iff.mp (hy ▸ hle))

/-! ### Scores with names -/

variable {a b : String}

/-- What scores with names are sorted by: the scores, downwards, and then the names. -/
def scoreKey (score : Float) (name : String) : (WithBot (ℤ ×ₗ ℤ ×ₗ ℤ))ᵒᵈ ×ₗ String :=
  toLex (.toDual (rank score), name)

/-- Scores that are numbers compare first and then the names. -/
lemma scoreKey_lt_iff (hx : rank x ≠ ⊥) (hy : rank y ≠ ⊥) :
    scoreKey x a < scoreKey y b ↔ y < x ∨ ¬ x < y ∧ a < b := by
  rw [scoreKey, scoreKey, Prod.Lex.toLex_lt_toLex, lt_iff_rank, lt_iff_rank]
  simp only [hx, hy, not_false_eq_true, true_and, ne_eq, OrderDual.toDual_lt_toDual,
    EmbeddingLike.apply_eq_iff_eq, not_lt]
  constructor
  · rintro (hlt | ⟨heq, hname⟩)
    · exact .inl hlt
    · exact .inr ⟨heq.ge, hname⟩
  · rintro (hlt | ⟨hle, hname⟩)
    · exact .inl hlt
    · exact hle.lt_or_eq.imp_right fun heq => ⟨heq.symm, hname⟩

/-- A comparison of scores that are numbers and then of names is that of the keys. -/
lemma ite_eq_scoreKey_le (hx : rank x ≠ ⊥) (hy : rank y ≠ ⊥) :
    (if y < x then true else if x < y then false else decide (a ≤ b)) =
      decide (scoreKey x a ≤ scoreKey y b) := by
  have hle : scoreKey x a ≤ scoreKey y b ↔ ¬ (x < y ∨ ¬ y < x ∧ b < a) := by
    rw [← scoreKey_lt_iff hy hx, not_lt]
  rw [Bool.eq_iff_iff, decide_eq_true_iff (p := scoreKey x a ≤ scoreKey y b), hle]
  split_ifs with hbefore hafter
  · have hnot : ¬ x < y := fun hlt =>
      (lt_iff_rank.mp hlt).2.asymm (lt_iff_rank.mp hbefore).2
    simp [hbefore, hnot]
  · simp [hafter]
  · simp only [hbefore, hafter, not_false_eq_true, true_and, false_or, not_lt, decide_eq_true_eq]

end Decimal

/-! ## Sorting -/

/-- A list is sorted by a key when it is sorted by a comparison that is one of keys for its
members. -/
lemma pairwise_mergeSort_of_key {α κ : Type} [LinearOrder κ] {precedes : α → α → Bool} {l : List α}
    (key : α → κ) (h : ∀ a ∈ l, ∀ b ∈ l, precedes a b = decide (key a ≤ key b)) :
    (l.mergeSort precedes).Pairwise fun a b => key a ≤ key b := by
  have hkey : l.mergeSort precedes = l.mergeSort fun a b => decide (key a ≤ key b) := by
    simpa using List.map_mergeSort (f := id) h
  rw [hkey]
  refine (List.pairwise_mergeSort ?_ ?_ l).imp fun hle => of_decide_eq_true hle
  · intro a b c hab hbc
    simp only [decide_eq_true_eq] at hab hbc ⊢
    exact hab.trans hbc
  · intro a b
    simpa using le_total (key a) (key b)

/-- The first few of a list that is sorted by a key hold, of every member, the member itself or as
many as there may be that do not come after it. -/
lemma mem_take_mergeSort_or {α κ : Type} [LinearOrder κ] {precedes : α → α → Bool} {l : List α}
    (key : α → κ) (h : ∀ a ∈ l, ∀ b ∈ l, precedes a b = decide (key a ≤ key b)) (n : ℕ) {x : α}
    (hx : x ∈ l) : x ∈ (l.mergeSort precedes).take n ∨
      ((l.mergeSort precedes).take n).length = n ∧
        ∀ y ∈ (l.mergeSort precedes).take n, key y ≤ key x := by
  have hsorted := pairwise_mergeSort_of_key key h
  rw [← List.take_append_drop n (l.mergeSort precedes), List.pairwise_append] at hsorted
  have hmem : x ∈ l.mergeSort precedes := List.mem_mergeSort.mpr hx
  rw [← List.take_append_drop n (l.mergeSort precedes), List.mem_append] at hmem
  refine hmem.imp_right fun hdrop => ⟨?_, fun y hy => hsorted.2.2 y hy x hdrop⟩
  have hmore : n < (l.mergeSort precedes).length := by
    by_contra hle
    rw [List.drop_eq_nil_of_le (Nat.le_of_not_lt hle)] at hdrop
    exact absurd hdrop List.not_mem_nil
  rw [List.length_take, Nat.min_eq_left hmore.le]

end QueryGate
