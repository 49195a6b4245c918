import Mathlib.Data.List.Basic
import QueryGate.Geo.Coverage

set_option relaxedAutoImplicit false
set_option autoImplicit false

/-!
# The index of a level

The names of a level are searched by halving, which finds a name exactly when it is there, because
they ascend. The places by lower-case form are entered from the front, and the first one of a form
stays. So the index finds a name as it is written, or else the first name with its lower-case form.

## Main definitions

* `QueryGate.LevelNames.Narrowed` — only places in a window may hold a name.

## Main results

* `QueryGate.LevelNames.placeBetween_sound`, `QueryGate.LevelNames.placeBetween_complete` — the
  search by halving.
* `QueryGate.LevelNames.lookup_foldl_enter` — the first place of a form stays.
* `QueryGate.LevelNames.lookup_ofNames` — what the index finds, told without it.
-/

namespace QueryGate.LevelNames

variable {sorted : Array String} {name : String}

/-! ## The search by halving -/

/-- Only places from `lo` to before `hi` may hold a name. -/
structure Narrowed (sorted : Array String) (name : String) (lo hi : Nat) : Prop where
  /-- What stands before the window is smaller. -/
  below : ∀ i : Fin sorted.size, i < lo → sorted[i] < name
  /-- What stands behind the window is greater. -/
  above : ∀ i : Fin sorted.size, hi ≤ i → name < sorted[i]

/-- All places may hold it at first. -/
lemma narrowed_all : Narrowed sorted name 0 sorted.size :=
  ⟨fun _ h => absurd h (Nat.not_lt_zero _), fun i h => absurd i.isLt (Nat.not_lt.mpr h)⟩

/-- Of two places in an ascending array the first has the smaller name. -/
lemma getElem_lt_getElem (hsorted : sorted.toList.Pairwise (· < ·)) {i j : Fin sorted.size}
    (h : i < j) : sorted[i] < sorted[j] := by
  have hlt := List.pairwise_iff_getElem.mp hsorted i j (by simp) (by simp) h
  simpa only [Array.getElem_toList, Fin.getElem_fin] using hlt

/-- A name in the middle that is too small leaves the upper half. -/
lemma Narrowed.upper {lo hi : Nat} {mid : Fin sorted.size}
    (hsorted : sorted.toList.Pairwise (· < ·)) (h : Narrowed sorted name lo hi)
    (hmid : sorted[mid] < name) : Narrowed sorted name (mid + 1) hi := by
  refine ⟨fun i hi => ?_, h.above⟩
  rcases Nat.lt_or_eq_of_le (Nat.le_of_lt_succ hi) with hlt | heq
  · exact String.lt_trans (getElem_lt_getElem hsorted hlt) hmid
  · exact Fin.ext heq ▸ hmid

/-- A name in the middle that is too great leaves the lower half. -/
lemma Narrowed.lower {lo hi : Nat} {mid : Fin sorted.size}
    (hsorted : sorted.toList.Pairwise (· < ·)) (h : Narrowed sorted name lo hi)
    (hmid : name < sorted[mid]) : Narrowed sorted name lo mid := by
  refine ⟨h.below, fun i hi => ?_⟩
  rcases Nat.lt_or_eq_of_le hi with hlt | heq
  · exact String.lt_trans hmid (getElem_lt_getElem hsorted hlt)
  · exact Fin.ext heq ▸ hmid

/-- A place that is found holds the name. -/
lemma placeBetween_sound {lo hi : Nat} {hhi : hi ≤ sorted.size} {place : Fin sorted.size}
    (h : placeBetween sorted name lo hi hhi = some place) : sorted[place] = name := by
  fun_induction placeBetween sorted name lo hi hhi with
  | case1 lo hi hhi hlo mid heq =>
    obtain rfl := Option.some.inj h
    exact heq
  | case2 lo hi hhi hlo mid hne hlt ih => exact ih h
  | case3 lo hi hhi hlo mid hne hge ih => exact ih h
  | case4 lo hi hhi hempty => exact absurd h nofun

/-- **If no place is found, none holds the name.**

**Proof sketch.** Induction on the search. A name in the middle that is not the one sought narrows
the places that may hold it to one half, and an empty window has none left. -/
lemma placeBetween_complete (hsorted : sorted.toList.Pairwise (· < ·)) {lo hi : Nat}
    {hhi : hi ≤ sorted.size} (hnarrowed : Narrowed sorted name lo hi)
    (h : placeBetween sorted name lo hi hhi = none) (i : Fin sorted.size) : sorted[i] ≠ name := by
  fun_induction placeBetween sorted name lo hi hhi with
  | case1 lo hi hhi hlo mid heq => exact absurd h nofun
  | case2 lo hi hhi hlo mid hne hlt ih => exact ih (hnarrowed.upper hsorted hlt) h
  | case3 lo hi hhi hlo mid hne hge ih =>
    have hgt : name < sorted[mid] :=
      Std.lt_of_le_of_ne (Std.not_lt.mp hge) (Ne.symm hne)
    exact ih (hnarrowed.lower hsorted hgt) h
  | case4 lo hi hhi hempty =>
    intro heq
    rcases Nat.lt_or_ge i lo with hlt | hge
    · exact absurd (hnarrowed.below i hlt) (heq ▸ String.lt_irrefl _)
    · have habove := hnarrowed.above i (Nat.le_trans (Nat.not_lt.mp hempty) hge)
      exact absurd habove (heq ▸ String.lt_irrefl _)

/-- The search by halving finds a name just if it is there. -/
lemma placeBetween_eq_none_iff (hsorted : sorted.toList.Pairwise (· < ·)) (name : String) :
    placeBetween sorted name 0 sorted.size (Nat.le_refl _) = none ↔ name ∉ sorted.toList := by
  constructor
  · intro h hmem
    obtain ⟨i, hi, heq⟩ := List.mem_iff_getElem.mp hmem
    exact placeBetween_complete hsorted narrowed_all h ⟨i, by simpa using hi⟩ (by simpa using heq)
  · intro h
    cases hplace : placeBetween sorted name 0 sorted.size (Nat.le_refl _) with
    | none => rfl
    | some place => exact absurd (placeBetween_sound hplace ▸ by simp) h

/-! ## The places by lower-case form -/

/-- A form that is entered has a place, the old one if there was one. -/
lemma lookup_enter {n : Nat} (places : List (String × Fin n)) (entered form : String)
    (place : Fin n) :
    (enter places entered place).lookup form =
      (places.lookup form).or (if entered = form then some place else none) := by
  unfold enter
  by_cases heq : entered = form
  · subst heq
    cases h : places.lookup entered <;> simp [h]
  · have hother : (form == entered) = false := beq_false_of_ne (Ne.symm heq)
    split_ifs with h
    · simp
    · simp [List.lookup_cons, hother]

/-- **The first place of a form stays.** -/
lemma lookup_foldl_enter {n : Nat} (formOf : Fin n → String) (form : String) :
    ∀ (is : List (Fin n)) (places : List (String × Fin n)),
      (is.foldl (fun places i => enter places (formOf i) i) places).lookup form =
        (places.lookup form).or (is.find? fun i => formOf i == form)
  | [], places => by simp
  | i :: is, places => by
    rw [List.foldl_cons, lookup_foldl_enter formOf form is, lookup_enter, Option.or_assoc,
      List.find?_cons]
    by_cases h : formOf i = form
    · simp [h]
    · simp [h, beq_false_of_ne h]

/-! ## The index -/

/-- The names of an array by their places. -/
lemma map_getElem_finRange (sorted : Array String) :
    (List.finRange sorted.size).map (sorted[·]) = sorted.toList := by
  exact List.ext_getElem (by simp) fun i hi hi' => by simp

/-- **What the index finds, told without it:** the name itself if it is there, or else the first one
with its lower-case form. -/
theorem lookup_ofNames {names : List String} (hsorted : names.Pairwise (· < ·)) (name : String) :
    (ofNames names).lookup name =
      if name ∈ names then some name
      else names.find? fun n => Text.lower n == Text.lower name := by
  have hascending : names.toArray.toList.Pairwise (· < ·) := hsorted
  have hnone := placeBetween_eq_none_iff hascending name
  cases hplace : placeBetween names.toArray name 0 names.toArray.size (Nat.le_refl _) with
  | some place =>
    have hmem : name ∈ names := by
      by_contra hmem
      exact absurd (hplace.symm.trans (hnone.mpr hmem)) nofun
    rw [if_pos hmem]
    simp only [lookup, ofNames, hplace]
    exact congrArg some (placeBetween_sound hplace)
  | none =>
    rw [if_neg (hnone.mp hplace)]
    simp only [lookup, ofNames, hplace]
    have hnames : names = (List.finRange names.toArray.size).map (names.toArray[·]) :=
      (map_getElem_finRange names.toArray).symm
    rw [lookup_foldl_enter, List.lookup_nil, Option.none_or]
    conv_rhs => rw [hnames, List.find?_map]
    rfl

end QueryGate.LevelNames
