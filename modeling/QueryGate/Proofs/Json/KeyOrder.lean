import QueryGate.Proofs.Alphabet
import QueryGate.Proofs.Json.Reading
import QueryGate.Proofs.Outcome

set_option relaxedAutoImplicit false
set_option autoImplicit false

/-!
# The order of keys

The canonical text of a value forgets the order of the keys in its objects, and nothing else.

## Main definitions

* `QueryGate.Json.Alike` — two values that are equal up to the order of keys at every depth, with
  numbers compared as they are written.
* `QueryGate.Json.Members.Alike` — the same for the members of two objects.

## Main results

* `QueryGate.Json.alike_of_canonical` — values with one canonical text are alike.
* `QueryGate.Json.Alike.members` — the members of alike objects are alike once put in order.
* `QueryGate.Json.Alike.record` — so are, in the order written, those of two records with the same
  fields.
-/

namespace QueryGate.Json

/-- Two values that are equal up to the order of keys at every depth. Numbers are compared as they
are written. -/
def Alike (a b : Json) : Prop := Twin a.sorted b.sorted

/-- Two members with one key and alike values. -/
def MemberAlike (p q : String × Json) : Prop := p.1 = q.1 ∧ Alike p.2 q.2

/-- Members that are alike one by one, once put in order. -/
def Members.Alike (ms ns : List (String × Json)) : Prop :=
  ∃ ns', ns'.Perm ns ∧ List.Forall₂ MemberAlike ms ns'

namespace Members.Alike

variable {ms ns : List (String × Json)}

/-- Alike members have the same keys. -/
lemma perm_keys (h : Members.Alike ms ns) : (ms.map (·.1)).Perm (ns.map (·.1)) := by
  obtain ⟨ns', hperm, hall⟩ := h
  have hkeys : ms.map (·.1) = ns'.map (·.1) := by
    rw [← List.forall₂_eq_eq_eq, List.forall₂_map_left_iff, List.forall₂_map_right_iff]
    exact hall.imp fun p q hpq => hpq.1
  rw [hkeys]
  exact hperm.map _

/-- For every member there is one that it is alike to. -/
lemma exists_right (h : Members.Alike ms ns) {m : String × Json} (hm : m ∈ ms) :
    ∃ n ∈ ns, MemberAlike m n := by
  obtain ⟨ns', hperm, hall⟩ := h
  obtain ⟨n, hn, hmn⟩ := Outcome.exists_of_forall₂ hall hm
  exact ⟨n, hperm.subset hn, hmn⟩

/-- For every member there is one that is alike to it. -/
lemma exists_left (h : Members.Alike ms ns) {n : String × Json} (hn : n ∈ ns) :
    ∃ m ∈ ms, MemberAlike m n := by
  obtain ⟨ns', hperm, hall⟩ := h
  have hflip : List.Forall₂ (fun n m => MemberAlike m n) ns' ms := hall.flip
  exact Outcome.exists_of_forall₂ hflip (hperm.symm.subset hn)

end Members.Alike

/-- **Values with one canonical text are equal up to the order of keys.** -/
theorem alike_of_canonical {a b : Json} (h : a.canonical = b.canonical) : Alike a b := by
  have hend : Ends [] := fun c hc => absurd hc (by simp)
  have hchars : chars a.sorted = chars b.sorted := String.ofList_injective h
  exact (twin_of_chars a.sorted b.sorted hend hend (by rw [hchars])).1

/-- Sorting a list sorts its items. -/
lemma sortedItems_eq_map : ∀ items : List Json, sortedItems items = items.map sorted
  | [] => rfl
  | j :: rest => by rw [sortedItems, sortedItems_eq_map rest, List.map_cons]

/-- Sorting the members of an object sorts their values. -/
lemma sortedMembers_eq_map : ∀ ms : List (String × Json),
    sortedMembers ms = ms.map fun m => (m.1, m.2.sorted)
  | [] => rfl
  | (k, v) :: rest => by rw [sortedMembers, sortedMembers_eq_map rest, List.map_cons]

/-- Members with the same keys in the same order, each key once, stand in one order only. -/
lemma eq_of_perm_of_keys : ∀ {ms ns : List (String × Json)}, ms.Perm ns →
    ms.map (·.1) = ns.map (·.1) → (ns.map (·.1)).Nodup → ms = ns
  | [], [], _, _, _ => rfl
  | [], _ :: _, _, hkeys, _ => absurd hkeys nofun
  | _ :: _, [], _, hkeys, _ => absurd hkeys nofun
  | m :: ms, n :: ns, hperm, hkeys, hnodup => by
    rw [List.map_cons, List.map_cons, List.cons.injEq] at hkeys
    rw [List.map_cons, List.nodup_cons] at hnodup
    have hmem : m ∈ n :: ns := hperm.subset List.mem_cons_self
    rcases List.mem_cons.mp hmem with rfl | hlater
    · rw [eq_of_perm_of_keys hperm.cons_inv hkeys.2 hnodup.2]
    · exact absurd (hkeys.1 ▸ List.mem_map_of_mem hlater) hnodup.1

/-- Natural numbers are told apart by their digits. -/
lemma digitsOf_injective : Function.Injective Decimal.digitsOf := by
  intro m n h
  rw [← Nat.ofDigitChars_ten_toDigits (n := m), ← Nat.ofDigitChars_ten_toDigits (n := n)]
  exact congrArg (Nat.ofDigitChars 10 · 0) h

/-- Whole numbers are told apart by their text. -/
lemma intChars_injective : Function.Injective intChars := by
  intro m n h
  have hsign : ∀ k, '-' ∉ Decimal.digitsOf k := fun k => not_mem_toDigits k (by decide)
  simp only [intChars, Decimal.signOf] at h
  by_cases hm : m < 0 <;> by_cases hn : n < 0 <;> simp [hm, hn] at h
  · have habs := digitsOf_injective h
    omega
  · exact absurd (h ▸ List.mem_cons_self) (hsign n.natAbs)
  · exact absurd (h ▸ List.mem_cons_self) (hsign m.natAbs)
  · have habs := digitsOf_injective h
    omega

/-- The null value is written like no whole number. -/
lemma intChars_ne_null (n : Int) : intChars n ≠ ['n', 'u', 'l', 'l'] := by
  intro h
  have hmem : 'u' ∈ intChars n := h ▸ by decide
  rcases List.mem_append.mp hmem with hsign | hdigit
  · by_cases hn : n < 0 <;> simp [Decimal.signOf, hn] at hsign
  · exact not_mem_toDigits n.natAbs (by decide) hdigit

namespace Alike

/-- A text is alike only to itself. -/
lemma str {x : String} {b : Json} (h : Alike (.str x) b) : b = .str x := by
  unfold Alike at h
  generalize hb : b.sorted = b' at h
  cases h with
  | bare ha => exact absurd ha (by simp [sorted, isBare])
  | str =>
    cases b with
    | str y => exact hb
    | _ => simp [sorted] at hb

/-- The items of alike lists are alike. -/
lemma items {xs ys : List Json} (h : Alike (.arr xs) (.arr ys)) : List.Forall₂ Alike xs ys := by
  unfold Alike at h
  rw [sorted, sorted, sortedItems_eq_map, sortedItems_eq_map] at h
  cases h with
  | bare ha => exact absurd ha (by simp [isBare])
  | arr hitems => rwa [List.forall₂_map_left_iff, List.forall₂_map_right_iff] at hitems

/-- Lists of texts are alike only when they are equal. -/
lemma strings {xs ys : List String} (h : Alike (.strings xs) (.strings ys)) : xs = ys := by
  have hitems := h.items
  rw [List.forall₂_map_left_iff, List.forall₂_map_right_iff] at hitems
  rw [← List.forall₂_eq_eq_eq]
  exact hitems.imp fun x y hxy => (Json.str.inj hxy.str).symm

/-- The members of alike objects are alike once put in order. -/
theorem members {ms ns : List (String × Json)} (h : Alike (.obj ms) (.obj ns)) :
    Members.Alike ms ns := by
  unfold Alike at h
  rw [sorted, sorted, sortedMembers_eq_map, sortedMembers_eq_map] at h
  cases h with
  | bare ha => exact absurd ha (by simp [isBare])
  | obj hkeys hvalues =>
    let f : String × Json → String × Json := fun m => (m.1, m.2.sorted)
    have hms : (ms.map f).Perm (Members.sort (ms.map f)) := (List.mergeSort_perm _ _).symm
    have hns : (Members.sort (ns.map f)).Perm (ns.map f) := List.mergeSort_perm _ _
    rw [← List.forall₂_eq_eq_eq, List.forall₂_map_left_iff, List.forall₂_map_right_iff] at hkeys
    rw [List.forall₂_map_left_iff, List.forall₂_map_right_iff] at hvalues
    have hpairs : List.Forall₂ (fun p q : String × Json => p.1 = q.1 ∧ Twin p.2 q.2)
        (Members.sort (ms.map f)) (Members.sort (ns.map f)) :=
      List.Forall₂.mp (fun p q hkey hvalue => ⟨hkey, hvalue⟩) hkeys hvalues
    obtain ⟨w, hw, hperm⟩ := List.perm_comp_forall₂ hms hpairs
    have hcomp := congrFun (congrFun (List.eq_map_comp_perm f) w) ns
    have hback : ∃ ns' : List (String × Json), w = ns'.map f ∧ ns'.Perm ns :=
      (iff_of_eq hcomp).mpr (hperm.trans hns)
    obtain ⟨ns', rfl, hns'⟩ := hback
    rw [List.forall₂_map_left_iff, List.forall₂_map_right_iff] at hw
    exact ⟨ns', hns', hw⟩

/-- Alike values open alike. -/
lemma opening_eq {a b : Json} (h : Alike a b) : a.opening = b.opening := by
  have hsorted : ∀ c : Json, c.sorted.opening = c.opening := fun c => by
    cases c <;> simp [sorted, opening]
  rw [← hsorted a, ← hsorted b]
  exact Twin.opening_eq h

/-- Whole numbers are alike only when they are equal. -/
lemma int {m n : Int} (h : Alike (.int m) (.int n)) : m = n := by
  cases h with
  | bare _ _ hchars => exact intChars_injective hchars

/-- Natural numbers that may be missing are alike only when they are equal. -/
lemma ofNat? {m n : Option Nat} (h : Alike (.ofNat? m) (.ofNat? n)) : m = n := by
  cases m with
  | none =>
    cases n with
    | none => rfl
    | some n =>
      cases h with
      | bare _ _ hchars => exact absurd hchars.symm (intChars_ne_null n)
  | some m =>
    cases n with
    | none =>
      cases h with
      | bare _ _ hchars => exact absurd hchars (intChars_ne_null m)
    | some n => rw [Int.ofNat_inj.mp h.int]

/-- The members of two records with the same fields are alike one by one. -/
theorem record {ms ns : List (String × Json)} (h : Alike (.obj ms) (.obj ns))
    (hkeys : ms.map (·.1) = ns.map (·.1)) (hnodup : (ns.map (·.1)).Nodup) :
    List.Forall₂ MemberAlike ms ns := by
  obtain ⟨ns', hperm, hall⟩ := h.members
  have hsame : ns'.map (·.1) = ns.map (·.1) := by
    rw [← hkeys, ← List.forall₂_eq_eq_eq, List.forall₂_map_left_iff, List.forall₂_map_right_iff]
    exact hall.flip.imp fun p q hpq => hpq.1.symm
  rwa [eq_of_perm_of_keys hperm hsame hnodup] at hall

end Alike

end QueryGate.Json
