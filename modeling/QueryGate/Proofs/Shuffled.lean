import Mathlib.Data.List.Perm.Basic
import QueryGate.Proofs.Outcome

set_option relaxedAutoImplicit false
set_option autoImplicit false

/-!
# Lists in another order

Two lists whose members are in a relation, in any order, and what becomes of them when a step that
may be refused is taken on each member: either both are refused, or the values are again in a
relation, in any order.

## Main definitions

* `QueryGate.Shuffled` — two lists with related members, in any order.
* `QueryGate.Outcome.Agree` — two steps that are both refused or end with related values.

## Main results

* `QueryGate.Shuffled.flatMap_perm` — lists put together from related members.
* `QueryGate.Outcome.Agree.bind`, `QueryGate.Outcome.Agree.mapM_shuffled` — steps that agree on
  related values agree in a row and on the members of shuffled lists.
* `QueryGate.find?_eq_of_perm` — a search that at most one member answers finds it in any order.
-/

namespace QueryGate

variable {ε ε' α β γ δ : Type} {R : α → β → Prop} {S : γ → δ → Prop}

/-- Two lists whose members are in a relation one by one, once the second list is put in order. -/
def Shuffled (R : α → β → Prop) (xs : List α) (ys : List β) : Prop :=
  ∃ ys', ys'.Perm ys ∧ List.Forall₂ R xs ys'

namespace Shuffled

variable {xs : List α} {ys : List β}

/-- Shuffled lists are of one length. -/
lemma length_eq (h : Shuffled R xs ys) : xs.length = ys.length := by
  obtain ⟨ys', hperm, hall⟩ := h
  rw [hall.length_eq, hperm.length_eq]

/-- Of two shuffled lists either both are empty or none is. -/
lemma isEmpty_eq (h : Shuffled R xs ys) : xs.isEmpty = ys.isEmpty := by
  rw [Bool.eq_iff_iff, List.isEmpty_iff_length_eq_zero, List.isEmpty_iff_length_eq_zero,
    h.length_eq]

/-- Lists with equal members in any order are permutations. -/
lemma perm {xs ys : List α} (h : Shuffled Eq xs ys) : xs.Perm ys := by
  obtain ⟨ys', hperm, hall⟩ := h
  rw [List.forall₂_eq_eq_eq] at hall
  rwa [hall]

/-- What the members agree on, the lists agree on in any order. -/
lemma map_perm {f : α → γ} {g : β → γ} (h : Shuffled R xs ys) (hfg : ∀ a b, R a b → f a = g b) :
    (xs.map f).Perm (ys.map g) := by
  obtain ⟨ys', hperm, hall⟩ := h
  rw [Outcome.map_eq_of_forall₂ hfg hall]
  exact hperm.map g

/-- Lists put together from permutations are permutations. -/
lemma flatMap_perm {f : α → List γ} {g : β → List γ} (h : Shuffled R xs ys)
    (hfg : ∀ a b, R a b → (f a).Perm (g b)) : (xs.flatMap f).Perm (ys.flatMap g) := by
  obtain ⟨ys', hperm, hall⟩ := h
  refine List.Perm.trans ?_ (hperm.flatMap_right g)
  clear hperm
  induction hall with
  | nil => exact List.Perm.refl _
  | cons hab _ ih =>
    rw [List.flatMap_cons, List.flatMap_cons]
    exact (hfg _ _ hab).append ih

end Shuffled

/-- A search that at most one member answers finds it in any order. -/
lemma find?_eq_of_perm {p : α → Bool} {xs ys : List α} (h : xs.Perm ys)
    (hone : ∀ a ∈ xs, ∀ b ∈ xs, p a = true → p b = true → a = b) : xs.find? p = ys.find? p := by
  cases hx : xs.find? p with
  | none =>
    rw [List.find?_eq_none] at hx
    exact (List.find?_eq_none.mpr fun b hb => hx b (h.symm.subset hb)).symm
  | some a =>
    have ha := List.mem_of_find?_eq_some hx
    have hpa := List.find?_some hx
    obtain ⟨b, hb⟩ := Option.isSome_iff_exists.mp
      (List.find?_isSome.mpr ⟨a, h.subset ha, hpa⟩)
    have hmem := h.symm.subset (List.mem_of_find?_eq_some hb)
    rw [hb, hone a ha b hmem hpa (List.find?_some hb)]

namespace Outcome

/-- Two steps that are both refused, or end with values that are in a relation. -/
inductive Agree (R : α → β → Prop) : Except ε α → Except ε' β → Prop
  | ok {a : α} {b : β} (h : R a b) : Agree R (.ok a) (.ok b)
  | error (e : ε) (e' : ε') : Agree R (.error e) (.error e')

namespace Agree

variable {x : Except ε α} {y : Except ε' β}

/-- A step agrees with itself. -/
lemma refl (x : Except ε α) : Agree Eq x x := by
  cases x with
  | ok a => exact .ok rfl
  | error e => exact .error e e

/-- Two steps that have values at the same time agree on that much. -/
lemma of_follows (h : Follows x y) (h' : Follows y x) : Agree (fun _ _ => True) x y := by
  cases x with
  | ok a =>
    obtain ⟨b, rfl⟩ := h ⟨a, rfl⟩
    exact .ok trivial
  | error e =>
    cases y with
    | ok b => exact absurd (h' ⟨b, rfl⟩).choose_spec nofun
    | error e' => exact .error e e'

/-- Steps that agree have values at the same time. -/
lemma isOk_iff (h : Agree R x y) : (∃ a, x = .ok a) ↔ ∃ b, y = .ok b := by
  cases h with
  | ok hab => exact ⟨fun _ => ⟨_, rfl⟩, fun _ => ⟨_, rfl⟩⟩
  | error e e' => exact ⟨fun h => absurd h.choose_spec nofun, fun h => absurd h.choose_spec nofun⟩

/-- Values of steps that agree are in the relation. -/
lemma of_eq_ok {a : α} {b : β} (h : Agree R x y) (hx : x = .ok a) (hy : y = .ok b) : R a b := by
  subst hx hy
  cases h with
  | ok hab => exact hab

/-- A relation may be replaced by one that follows from it. -/
lemma imp {T : α → β → Prop} (h : Agree R x y) (hRT : ∀ a b, R a b → T a b) : Agree T x y := by
  cases h with
  | ok hab => exact .ok (hRT _ _ hab)
  | error e e' => exact .error e e'

/-- Next steps that agree on the values that there are make chains that agree. -/
lemma bind_of_ok {f : α → Except ε γ} {g : β → Except ε' δ} (h : Agree R x y)
    (hnext : ∀ a b, x = .ok a → y = .ok b → R a b → Agree S (f a) (g b)) :
    Agree S (x >>= f) (y >>= g) := by
  cases h with
  | ok hab => exact hnext _ _ rfl rfl hab
  | error e e' => exact .error e e'

/-- Next steps that agree on related values make chains that agree. -/
lemma bind {f : α → Except ε γ} {g : β → Except ε' δ} (h : Agree R x y)
    (hnext : ∀ a b, R a b → Agree S (f a) (g b)) : Agree S (x >>= f) (y >>= g) :=
  h.bind_of_ok fun a b _ _ => hnext a b

/-- So they do after one and the same step. -/
lemma bind_same {f : α → Except ε γ} {g : α → Except ε δ} (x : Except ε α)
    (hnext : ∀ a, Agree S (f a) (g a)) : Agree S (x >>= f) (x >>= g) := by
  cases x with
  | ok a => exact hnext a
  | error e => exact .error e e

/-- Values made of related values. -/
lemma map {f : α → γ} {g : β → δ} (h : Agree R x y) (hfg : ∀ a b, R a b → S (f a) (g b)) :
    Agree S (x.map f) (y.map g) := by
  cases h with
  | ok hab => exact .ok (hfg _ _ hab)
  | error e e' => exact .error e e'

/-- Refusals may be reworded. -/
lemma mapError {ζ ζ' : Type} (f : ε → ζ) (g : ε' → ζ') (h : Agree R x y) :
    Agree R (x.mapError f) (y.mapError g) := by
  cases h with
  | ok hab => exact .ok hab
  | error e e' => exact .error (f e) (g e')

/-- A step on each member of a list and of the same list in another order. -/
lemma mapM_perm (f : α → Except ε γ) {xs ys : List α} (h : xs.Perm ys) :
    Agree List.Perm (xs.mapM f) (ys.mapM f) := by
  have hok : ∀ {xs ys : List α}, xs.Perm ys → ∀ zs, ys.mapM f = .ok zs →
      ∃ ws, xs.mapM f = .ok ws ∧ ws.Perm zs := by
    intro xs ys h zs hzs
    obtain ⟨ws, hws, hperm⟩ := List.perm_comp_forall₂ h (mapM_eq_ok_iff.mp hzs)
    exact ⟨ws, mapM_eq_ok_iff.mpr hws, hperm⟩
  cases hy : ys.mapM f with
  | ok zs =>
    obtain ⟨ws, hws, hperm⟩ := hok h zs hy
    rw [hws]
    exact .ok hperm
  | error e =>
    cases hx : xs.mapM f with
    | ok ws =>
      obtain ⟨zs, hzs, -⟩ := hok h.symm ws hx
      exact absurd (hy.symm.trans hzs) nofun
    | error e' => exact .error e' e

/-- Steps that agree on related values agree on lists of related members. -/
lemma mapM {f : α → Except ε γ} {g : β → Except ε' δ}
    (hstep : ∀ a b, R a b → Agree S (f a) (g b)) : ∀ {xs : List α} {ys : List β},
    List.Forall₂ R xs ys → Agree (List.Forall₂ S) (xs.mapM f) (ys.mapM g)
  | _, _, .nil => .ok .nil
  | _, _, .cons hab hrest => by
    rw [List.mapM_cons, List.mapM_cons]
    exact (hstep _ _ hab).bind fun c d hcd => (mapM hstep hrest).bind fun cs ds hcds =>
      .ok (.cons hcd hcds)

/-- Steps that agree on related values agree on lists of related members, in any order. -/
lemma mapM_shuffled {f : α → Except ε γ} {g : β → Except ε δ}
    (hstep : ∀ a b, R a b → Agree S (f a) (g b)) {xs : List α} {ys : List β}
    (h : Shuffled R xs ys) : Agree (Shuffled S) (xs.mapM f) (ys.mapM g) := by
  obtain ⟨ys', hperm, hall⟩ := h
  have hfirst := mapM hstep hall
  have hsecond := mapM_perm g hperm
  generalize xs.mapM f = x at hfirst
  generalize ys'.mapM g = y' at hfirst hsecond
  generalize ys.mapM g = y at hsecond
  cases hfirst with
  | ok hcd => cases hsecond with
    | ok hperm => exact .ok ⟨_, hperm, hcd⟩
  | error e e' => cases hsecond with
    | error _ e'' => exact .error e e''

end Agree

/-- Steps that end the same on related values end the same on lists of related members. -/
lemma mapM_eq_of_forall₂ {f : α → Except ε γ} {g : β → Except ε γ}
    (hstep : ∀ a b, R a b → f a = g b) : ∀ {xs : List α} {ys : List β}, List.Forall₂ R xs ys →
      xs.mapM f = ys.mapM g
  | _, _, .nil => rfl
  | _, _, .cons hab hrest => by
    rw [List.mapM_cons, List.mapM_cons, hstep _ _ hab, mapM_eq_of_forall₂ hstep hrest]

end Outcome

end QueryGate
