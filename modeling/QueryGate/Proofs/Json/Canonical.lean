import QueryGate.Proofs.Json.KeyOrder

set_option relaxedAutoImplicit false
set_option autoImplicit false

/-!
# What the canonical text forgets

The canonical text of a value forgets the order of the keys in its objects, which may be any where
the keys are distinct. Two values that it makes equal have the same shape, level by level.

## Main definitions

* `QueryGate.Json.Finite` — a value whose floating numbers all have a JSON form.

## Main results

* `QueryGate.Json.alike_iff_canonical` — values are alike exactly when they have one canonical
  text.
* `QueryGate.Json.alike_obj_iff` — objects with distinct keys are alike exactly when their members
  are, in any order.
* `QueryGate.Json.Alike.ne_null` — no value is written like the null value, provided that it has a
  JSON form at all.
-/

namespace QueryGate.Json

/-! ## One canonical text -/

mutual

/-- Twins have one text. -/
theorem chars_eq_of_twin : ∀ {a b : Json}, Twin a b → chars a = chars b
  | _, _, .bare _ _ h => h
  | _, _, .str _ => rfl
  | .arr _, .arr _, .arr h => by rw [chars, chars, itemChars_eq_of_twins h]
  | .obj _, .obj _, .obj keys h => by rw [chars, chars, memberChars_eq_of_twins keys h]

/-- So have lists of twins. -/
theorem itemChars_eq_of_twins : ∀ {xs ys : List Json}, List.Forall₂ Twin xs ys →
    itemChars xs = itemChars ys
  | [], [], _ => rfl
  | [_], [_], .cons hfirst _ => chars_eq_of_twin hfirst
  | x :: x' :: xs, y :: y' :: ys, .cons hfirst hrest => by
    rw [itemChars_cons, itemChars_cons, laterItems, laterItems, chars_eq_of_twin hfirst,
      itemChars_eq_of_twins hrest]

/-- So have members with the same keys whose values are twins. -/
theorem memberChars_eq_of_twins : ∀ {ms ns : List (String × Json)},
    ms.map (·.1) = ns.map (·.1) → List.Forall₂ Twin (ms.map (·.2)) (ns.map (·.2)) →
      memberChars ms = memberChars ns
  | [], [], _, _ => rfl
  | [(k, v)], [(l, w)], hkeys, .cons hfirst _ => by
    obtain rfl : k = l := (List.cons.inj hkeys).1
    rw [memberChars, memberChars, chars_eq_of_twin hfirst]
  | (k, v) :: m :: ms, (l, w) :: n :: ns, hkeys, .cons hfirst hrest => by
    obtain rfl : k = l := (List.cons.inj hkeys).1
    rw [memberChars_cons, memberChars_cons, laterMembers, laterMembers, chars_eq_of_twin hfirst,
      memberChars_eq_of_twins (List.cons.inj hkeys).2 hrest]

end

/-- **Values are equal up to the order of keys exactly when they have one canonical text.** -/
theorem alike_iff_canonical {a b : Json} : Alike a b ↔ a.canonical = b.canonical :=
  ⟨fun h => congrArg String.ofList (chars_eq_of_twin h), alike_of_canonical⟩

/-! ## Any order of keys -/

/-- Members in the order of their keys. -/
lemma pairwise_sort (ms : List (String × Json)) :
    ((Members.sort ms).map (·.1)).Pairwise (· ≤ ·) := by
  have hsorted : (Members.sort ms).Pairwise fun a b => decide (a.1 ≤ b.1) = true :=
    List.pairwise_mergeSort (by simpa using fun a b c => String.le_trans)
      (by simpa using String.le_total) ms
  rw [List.pairwise_map]
  simpa using hsorted

/-- Members with the same keys have them in the same order, once put in order. -/
lemma keys_sort_eq {ms ns : List (String × Json)} (h : (ms.map (·.1)).Perm (ns.map (·.1))) :
    (Members.sort ms).map (·.1) = (Members.sort ns).map (·.1) := by
  have hperm : ((Members.sort ms).map (·.1)).Perm ((Members.sort ns).map (·.1)) :=
    ((List.mergeSort_perm _ _).map _).trans (h.trans ((List.mergeSort_perm _ _).map _).symm)
  exact hperm.eq_of_pairwise (fun _ _ _ _ => String.le_antisymm) (pairwise_sort ms)
    (pairwise_sort ns)

/-- **Objects with distinct keys are alike exactly when their members are, in any order.** -/
theorem alike_obj_iff {ms ns : List (String × Json)} (hnodup : (ns.map (·.1)).Nodup) :
    Alike (.obj ms) (.obj ns) ↔ Members.Alike ms ns := by
  refine ⟨Alike.members, fun h => ?_⟩
  let f : String × Json → String × Json := fun m => (m.1, m.2.sorted)
  have hfst : ∀ ls : List (String × Json), (ls.map f).map (·.1) = ls.map (·.1) := by simp [f]
  have hkeys : (Members.sort (ms.map f)).map (·.1) = (Members.sort (ns.map f)).map (·.1) :=
    keys_sort_eq (by rw [hfst, hfst]; exact h.perm_keys)
  obtain ⟨ns', hperm, hall⟩ := h
  have hpairs : List.Forall₂ (fun p q : String × Json => p.1 = q.1 ∧ Twin p.2 q.2)
      (ms.map f) (ns'.map f) := by
    rw [List.forall₂_map_left_iff, List.forall₂_map_right_iff]
    exact hall
  have hsort : (Members.sort (ms.map f)).Perm (ms.map f) := List.mergeSort_perm _ _
  obtain ⟨w, hw, hwperm⟩ := List.perm_comp_forall₂ hsort hpairs
  -- The partners of the sorted members are sorted as well, since they have the same keys.
  have hwkeys : w.map (·.1) = (Members.sort (ns.map f)).map (·.1) := by
    rw [← hkeys, eq_comm, ← List.forall₂_eq_eq_eq, List.forall₂_map_left_iff,
      List.forall₂_map_right_iff]
    exact hw.imp fun p q hpq => hpq.1
  have hwns : w.Perm (Members.sort (ns.map f)) :=
    (hwperm.trans (hperm.map f)).trans (List.mergeSort_perm _ _).symm
  have hdistinct : ((Members.sort (ns.map f)).map (·.1)).Nodup := by
    have hsame : ((Members.sort (ns.map f)).map (·.1)).Perm (ns.map (·.1)) :=
      hfst ns ▸ (List.mergeSort_perm _ _).map _
    exact hsame.nodup_iff.mpr hnodup
  obtain rfl := eq_of_perm_of_keys hwns hwkeys hdistinct
  unfold Alike
  rw [sorted, sorted, sortedMembers_eq_map, sortedMembers_eq_map]
  refine .obj hkeys ?_
  rw [List.forall₂_map_left_iff, List.forall₂_map_right_iff]
  exact hw.imp fun p q hpq => hpq.2

/-! ## Alike values level by level -/

/-- Members are alike in any order. -/
lemma Members.Alike.of_perm {ms ns : List (String × Json)} (h : ms.Perm ns) :
    Members.Alike ms ns :=
  ⟨ms, h, List.forall₂_same.mpr fun _ _ => ⟨rfl, alike_iff_canonical.mpr rfl⟩⟩

namespace Alike

variable {a b : Json}

/-- A value is alike to itself. -/
lemma refl (a : Json) : Alike a a := alike_iff_canonical.mpr rfl

/-- Which of two values stands first does not matter. -/
lemma symm (h : Alike a b) : Alike b a :=
  alike_iff_canonical.mpr (alike_iff_canonical.mp h).symm

/-- Only lists are alike to lists. -/
lemma arr {xs : List Json} (h : Alike (.arr xs) b) :
    ∃ ys, b = .arr ys ∧ List.Forall₂ Alike xs ys := by
  have hopening := h.opening_eq
  cases b with
  | arr ys => exact ⟨ys, rfl, h.items⟩
  | _ => simp [opening] at hopening

/-- Only objects are alike to objects. -/
lemma obj {ms : List (String × Json)} (h : Alike (.obj ms) b) :
    ∃ ns, b = .obj ns ∧ Members.Alike ms ns := by
  have hopening := h.opening_eq
  cases b with
  | obj ns => exact ⟨ns, rfl, h.members⟩
  | _ => simp [opening] at hopening

end Alike

/-! ## Values with a JSON form -/

/-- A value whose floating numbers all have a JSON form. -/
inductive Finite : Json → Prop
  | null : Finite .null
  | bool (b : Bool) : Finite (.bool b)
  | int (n : Int) : Finite (.int n)
  | float {x : Float} {negative : Bool} {value : Decimal.Binary}
    (h : Decimal.read x = .finite negative value) : Finite (.float x)
  | str (s : String) : Finite (.str s)
  | arr {items : List Json} (h : ∀ j ∈ items, Finite j) : Finite (.arr items)
  | obj {members : List (String × Json)} (h : ∀ m ∈ members, Finite m.2) : Finite (.obj members)

/-- The items of a list with a JSON form have one. -/
lemma Finite.items {items : List Json} (h : Finite (.arr items)) : ∀ j ∈ items, Finite j := by
  cases h with
  | arr h => exact h

/-- The values of an object with a JSON form have one. -/
lemma Finite.members {members : List (String × Json)} (h : Finite (.obj members)) :
    ∀ m ∈ members, Finite m.2 := by
  cases h with
  | obj h => exact h

/-- Whether a value is a number. -/
def isNumber : Json → Bool
  | int _ | float _ => true
  | _ => false

/-- A decimal is written in digits and the marks for points, exponents and signs. -/
lemma not_mem_write (layout : Decimal.Notation) (d : Decimal.Digits) {c : Char}
    (hc : c.isDigit = false) (hmarks : c ∉ ['.', 'e', '+', '-']) : c ∉ layout.write d := by
  have hdigits : ∀ n, c ∉ Decimal.digitsOf n := fun n => not_mem_toDigits n hc
  have htake : ∀ n k, c ∉ (Decimal.digitsOf n).take k :=
    fun n k hmem => hdigits n (List.mem_of_mem_take hmem)
  have hdrop : ∀ n k, c ∉ (Decimal.digitsOf n).drop k :=
    fun n k hmem => hdigits n (List.mem_of_mem_drop hmem)
  have htail : ∀ n, c ∉ (Decimal.digitsOf n).tail :=
    fun n hmem => hdigits n (List.mem_of_mem_tail hmem)
  have hzero : c ≠ '0' := fun h => absurd (h ▸ hc) (by decide)
  simp only [List.mem_cons, List.not_mem_nil, or_false, not_or] at hmarks
  unfold Decimal.Notation.write Decimal.Digits.positional Decimal.Digits.scientific
  dsimp only
  split_ifs <;> simp [hdigits, htake, hdrop, htail, hzero, hmarks]

/-- A number with a JSON form is written in digits and such marks. -/
lemma Finite.not_mem_chars {a : Json} (h : Finite a) (hnumber : a.isNumber = true) {c : Char}
    (hc : c.isDigit = false) (hmarks : c ∉ ['.', 'e', '+', '-']) : c ∉ chars a := by
  have hsign : ∀ negative, c ∉ Decimal.signOf negative := by
    intro negative
    simp only [List.mem_cons, List.not_mem_nil, or_false, not_or] at hmarks
    cases negative <;> simp [Decimal.signOf, hmarks]
  cases h with
  | int n =>
    rw [chars, intChars, List.mem_append, not_or]
    exact ⟨hsign _, not_mem_toDigits _ hc⟩
  | @float x negative value h =>
    simp only [chars, floatChars, h, List.mem_append, not_or]
    exact ⟨hsign _, not_mem_write _ _ hc hmarks⟩
  | _ => exact absurd hnumber Bool.false_ne_true

/-- No value is written like the null value, provided that it has a JSON form at all. -/
lemma Finite.chars_ne_null {a : Json} (h : Finite a) (hbare : a.isBare = true) (ha : a ≠ .null) :
    chars a ≠ chars .null := by
  have hnumber : a.isNumber = true → chars a ≠ chars .null := fun hnumber hchars =>
    h.not_mem_chars hnumber (c := 'u') (by decide) (by decide) (hchars ▸ by decide)
  cases a with
  | null => exact absurd rfl ha
  | bool b => cases b <;> simp [chars]
  | int n => exact hnumber rfl
  | float x => exact hnumber rfl
  | _ => simp [isBare] at hbare

/-- Nothing but the null value is alike to it, among values with a JSON form. -/
lemma Alike.ne_null {a b : Json} (h : Alike a b) (hfinite : Finite a) (ha : a ≠ .null) :
    b ≠ .null := by
  rintro rfl
  have hbare := isBare_of_opening h.opening_eq
  have hsorted : a.sorted = a := by cases a <;> simp [isBare] at hbare <;> rfl
  exact hfinite.chars_ne_null hbare ha (hsorted ▸ chars_eq_of_twin h)

end QueryGate.Json
