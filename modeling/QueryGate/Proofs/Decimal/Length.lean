import Mathlib.Tactic.NormNum
import Mathlib.Tactic.Ring
import QueryGate.Decimal.Notation

set_option relaxedAutoImplicit false
set_option autoImplicit false

/-!
# How long numbers get

A double in positional notation has no more than a few hundred characters: its shortest decimal is
taken from a grid that is at most eighteen places below its leading digit, and there is no leading
digit beyond the 309th before the point or the 324th behind it.

## Main definitions

* `QueryGate.Decimal.Binary.IsDouble` — the values that doubles have.

## Main results

* `QueryGate.Decimal.isDouble_of_read` — a finite double has such a value.
* `QueryGate.Decimal.length_plain_le` — a double in positional notation is at most 400 characters
  long.
-/

namespace QueryGate.Decimal

/-! ## The values of doubles -/

/-- The values that doubles have: 53 binary digits, and a power of two within bounds. -/
structure Binary.IsDouble (x : Binary) : Prop where
  /-- The whole number has at most 53 binary digits. -/
  digits : x.m < 2 ^ 53
  /-- The last place is no lower than that of the least doubles. -/
  low : -1074 ≤ x.q
  /-- The last place is no higher than that of the largest doubles. -/
  high : x.q ≤ 971

/-- A finite double has such a value. -/
lemma isDouble_of_read {x : Float} {negative : Bool} {value : Binary}
    (h : read x = .finite negative value) : value.IsDouble := by
  unfold read at h
  dsimp only at h
  have hexponent : x.toBits.toNat / twoTo 52 % twoTo 11 < 2048 := Nat.mod_lt _ (by decide)
  have hfraction : x.toBits.toNat % twoTo 52 < 2 ^ 52 := Nat.mod_lt _ (by decide)
  generalize x.toBits.toNat / twoTo 52 % twoTo 11 = exponent at h hexponent
  generalize x.toBits.toNat % twoTo 52 = fraction at h hfraction
  have htwo : twoTo 52 = 2 ^ 52 := rfl
  split_ifs at h with hspecial hzero hsubnormal
  · obtain ⟨-, rfl⟩ := Reading.finite.inj h
    exact ⟨by dsimp only; omega, Int.le_refl _, by dsimp only; omega⟩
  · obtain ⟨-, rfl⟩ := Reading.finite.inj h
    exact ⟨by dsimp only; omega, by dsimp only; omega, by dsimp only; omega⟩

/-! ## The scale -/

/-- The search for the scale ends within its steps. -/
lemma Binary.scaleFrom_bounds (x : Binary) : ∀ (tries : Nat) (guess : Int),
    guess ≤ x.scaleFrom tries guess ∧ x.scaleFrom tries guess ≤ guess + tries
  | 0, guess => ⟨Int.le_refl _, by simp [scaleFrom]⟩
  | tries + 1, guess => by
    have hnext := x.scaleFrom_bounds tries (guess + 1)
    unfold scaleFrom
    split_ifs
    · omega
    · omega

namespace Binary.IsDouble

variable {x : Binary}

/-- The scale of a double. Where it is below 18, so is the double below `2 ^ 60`. -/
lemma scale_bounds (h : x.IsDouble) :
    -324 ≤ x.scale ∧ x.scale ≤ 312 ∧ (x.scale < 18 → x.m * 2 ^ x.q.toNat < 2 ^ 60) := by
  have hlog : Nat.log2 x.m ≤ 52 := by
    rcases Nat.eq_zero_or_pos x.m with hzero | hpos
    · simp [hzero]
    · exact Nat.le_of_lt_succ ((Nat.log2_lt (Nat.pos_iff_ne_zero.mp hpos)).mpr h.digits)
  have hscale := x.scaleFrom_bounds 4 ((((Nat.log2 x.m : Int) + x.q) * 30103).fdiv 100000)
  rw [Int.fdiv_eq_ediv_of_nonneg _ (by decide)] at hscale
  rw [scale, Int.fdiv_eq_ediv_of_nonneg _ (by decide)]
  have hlow := h.low
  have hhigh := h.high
  refine ⟨by omega, by omega, fun hsmall => ?_⟩
  have hexponent : Nat.log2 x.m + 1 + x.q.toNat ≤ 60 := by omega
  calc x.m * 2 ^ x.q.toNat < 2 ^ (Nat.log2 x.m + 1) * 2 ^ x.q.toNat :=
        Nat.mul_lt_mul_of_pos_right Nat.lt_log2_self (Nat.two_pow_pos _)
    _ = 2 ^ (Nat.log2 x.m + 1 + x.q.toNat) := (pow_add ..).symm
    _ ≤ 2 ^ 60 := Nat.pow_le_pow_right (by decide) hexponent

/-- A double on the grids on which its shortest decimal is looked for. The lowest of them is
eighteen places below its leading digit, and so not below `10 ^ -342`. -/
lemma scaled_lt (h : x.IsDouble) {k : Nat} (hk : k ≤ 18) :
    x.m * 2 ^ x.q.toNat * 10 ^ (-(x.scale - k)).toNat < 10 ^ 361 := by
  obtain ⟨hlow, -, hsmall⟩ := h.scale_bounds
  by_cases hneg : x.scale - k < 0
  · calc x.m * 2 ^ x.q.toNat * 10 ^ (-(x.scale - k)).toNat
        < 2 ^ 60 * 10 ^ (-(x.scale - k)).toNat :=
          Nat.mul_lt_mul_of_pos_right (hsmall (by omega)) (Nat.pow_pos (by decide))
      _ ≤ 10 ^ 19 * 10 ^ (-(x.scale - k)).toNat := Nat.mul_le_mul_right _ (by norm_num)
      _ = 10 ^ (19 + (-(x.scale - k)).toNat) := (pow_add ..).symm
      _ ≤ 10 ^ 361 := pow_le_pow_right₀ (by norm_num) (by omega)
  · have hplaces : (-(x.scale - k)).toNat = 0 := by omega
    have hpower : x.q.toNat ≤ 971 := by have hhigh := h.high; omega
    rw [hplaces, pow_zero, mul_one]
    calc x.m * 2 ^ x.q.toNat < 2 ^ 53 * 2 ^ x.q.toNat :=
          Nat.mul_lt_mul_of_pos_right h.digits (Nat.two_pow_pos _)
      _ = 2 ^ (53 + x.q.toNat) := (pow_add ..).symm
      _ ≤ 2 ^ (16 * 64) := pow_le_pow_right₀ (by norm_num) (by omega)
      _ = (2 ^ 16) ^ 64 := pow_mul ..
      _ ≤ (10 ^ 5) ^ 64 := Nat.pow_le_pow_left (by norm_num) 64
      _ = 10 ^ (5 * 64) := (pow_mul ..).symm
      _ ≤ 10 ^ 361 := pow_le_pow_right₀ (by norm_num) (by norm_num)

/-- The whole part of a double on these grids. -/
lemma over_lt (h : x.IsDouble) {k : Nat} (hk : k ≤ 18) :
    x.over (x.scale - k) < 10 ^ (361 - (x.scale - k).toNat) := by
  obtain ⟨-, hhigh, -⟩ := h.scale_bounds
  have hplaces : (x.scale - k).toNat ≤ 361 := by omega
  have hsplit : 10 ^ 361 = 10 ^ (361 - (x.scale - k).toNat) * 10 ^ (x.scale - k).toNat := by
    rw [← pow_add, Nat.sub_add_cancel hplaces]
  unfold Binary.over
  refine Nat.div_lt_of_lt_mul (lt_of_lt_of_le (h.scaled_lt hk) ?_)
  rw [hsplit, mul_comm]
  exact Nat.mul_le_mul_right _ (Nat.le_mul_of_pos_left _ (Nat.two_pow_pos _))

end Binary.IsDouble

/-! ## Shortest decimals -/

/-- The shortest decimal is the whole part on one of the grids searched, or the number after it. -/
lemma Binary.exists_grid_shortestFrom (x : Binary) (scale : Int) : ∀ tries n : Nat,
    ∃ k ≤ n + tries, (x.shortestFrom scale tries n).exponent = scale - k ∧
      (x.shortestFrom scale tries n).digits ≤ x.over (scale - k) + 1
  | 0, n => ⟨n, Nat.le_refl _, rfl, Nat.le_succ _⟩
  | tries + 1, n => by
    unfold shortestFrom
    cases hgrid : x.onGrid (scale - n) with
    | none =>
      obtain ⟨k, hk, h⟩ := x.exists_grid_shortestFrom scale tries (n + 1)
      exact ⟨k, by omega, h⟩
    | some d =>
      refine ⟨n, by omega, ?_⟩
      unfold onGrid at hgrid
      dsimp only at hgrid ⊢
      split at hgrid
      · split at hgrid
        · obtain rfl := Option.some.inj hgrid
          exact ⟨rfl, Nat.le_succ _⟩
        · obtain rfl := Option.some.inj hgrid
          exact ⟨rfl, Nat.le_refl _⟩
        · obtain rfl := Option.some.inj hgrid
          split_ifs
          · exact ⟨rfl, Nat.le_succ _⟩
          · exact ⟨rfl, Nat.le_refl _⟩
      · obtain rfl := Option.some.inj hgrid
        exact ⟨rfl, Nat.le_succ _⟩
      · obtain rfl := Option.some.inj hgrid
        exact ⟨rfl, Nat.le_refl _⟩
      · exact absurd hgrid nofun

/-- Zeros at the end move into the exponent. -/
lemma Digits.strip_bounds : ∀ (tries : Nat) (d : Digits),
    d.exponent ≤ (Digits.strip tries d).exponent ∧
      (Digits.strip tries d).exponent ≤ d.exponent + tries ∧
      (Digits.strip tries d).digits ≤ d.digits
  | 0, d => ⟨Int.le_refl _, by simp [strip], Nat.le_refl _⟩
  | tries + 1, d => by
    have hrest := Digits.strip_bounds tries ⟨d.digits / 10, d.exponent + 1⟩
    have hdiv : d.digits / 10 ≤ d.digits := Nat.div_le_self _ _
    unfold strip
    split_ifs
    · dsimp only at hrest ⊢
      omega
    · exact ⟨Int.le_refl _, by omega, Nat.le_refl _⟩

/-- The digits and the exponent of the shortest decimal of a double. -/
lemma Binary.IsDouble.shortest_bounds {x : Binary} (h : x.IsDouble) :
    -342 ≤ x.shortest.exponent ∧
      (digitsOf x.shortest.digits).length + x.shortest.exponent.toNat ≤ 382 := by
  unfold Binary.shortest
  split_ifs
  · exact ⟨by decide, by decide⟩
  obtain ⟨k, hk, hexponent, hdigits⟩ := x.exists_grid_shortestFrom x.scale 17 1
  obtain ⟨hstart, hend, hless⟩ := Digits.strip_bounds 20 (x.shortestFrom x.scale 17 1)
  obtain ⟨hlow, hhigh, -⟩ := h.scale_bounds
  have hlength : (digitsOf (Digits.strip 20 (x.shortestFrom x.scale 17 1)).digits).length ≤
      362 - (x.scale - k).toNat := by
    refine (Nat.length_toDigits_le_iff (by decide) (by omega)).mpr ?_
    have hover := h.over_lt hk
    calc (Digits.strip 20 (x.shortestFrom x.scale 17 1)).digits
        ≤ x.over (x.scale - k) + 1 := hless.trans hdigits
      _ ≤ 10 ^ (361 - (x.scale - k).toNat) := hover
      _ < 10 ^ (362 - (x.scale - k).toNat) := Nat.pow_lt_pow_right (by decide) (by omega)
  rw [hexponent] at hstart hend
  omega

/-! ## Written out -/

/-- A sign is at most one character. -/
lemma length_signOf_le : ∀ negative : Bool, (signOf negative).length ≤ 1 := by decide

/-- A decimal in positional notation is not much longer than its digits and its zeros. -/
lemma Digits.length_positional_le {d : Digits} {n : Nat} (hlow : -(n : Int) ≤ d.exponent)
    (hlength : (digitsOf d.digits).length + d.exponent.toNat ≤ n) :
    (d.positional false).length ≤ n + 2 := by
  unfold positional
  simp only [Bool.false_eq_true, if_false, List.append_nil]
  split_ifs
  · simp only [List.length_append, List.length_replicate]
    omega
  · simp only [List.length_append, List.length_take, List.length_drop, List.length_singleton]
    omega
  · simp only [List.length_append, List.length_replicate, List.length_cons, List.length_nil]
    omega

/-- **A double in positional notation is at most 400 characters long.** -/
theorem length_plain_le (x : Float) : (plain x).toList.length ≤ 400 := by
  unfold plain
  cases hread : read x with
  | undefined => decide
  | infinite negative =>
    have hsign := length_signOf_le negative
    simp only [String.toList_ofList, List.length_append, List.length_cons, List.length_nil]
    omega
  | finite negative value =>
    obtain ⟨hlow, hlength⟩ := (isDouble_of_read hread).shortest_bounds
    have hpositional := Digits.length_positional_le (by omega) hlength
    have hsign := length_signOf_le negative
    simp only [String.toList_ofList, List.length_append]
    omega

end QueryGate.Decimal
