import Mathlib.Data.List.Forall2

set_option relaxedAutoImplicit false
set_option autoImplicit false

/-!
# Steps that may be refused

How a chain of steps that may each be refused ends with a value, and what becomes of a list when
such a step is taken on each of its members.

## Main definitions

* `QueryGate.Outcome.Alike` — two steps that end with the same refusal or with like values.
* `QueryGate.Outcome.Follows` — a step that has a value if another one has.
* `QueryGate.Outcome.RefusedFor` — a step that is refused for certain reasons only.

## Main results

* `QueryGate.Outcome.bind_eq_ok_iff` — two steps in a row have a value when both have.
* `QueryGate.Outcome.mapM_eq_ok_iff` — the values of a step on each member of a list.
* `QueryGate.Outcome.Alike.bind`, `QueryGate.Outcome.Alike.mapM` — steps that end alike on like
  values end alike in a row and on the members of lists.
-/

namespace QueryGate.Outcome

variable {ε ε' α β : Type}

/-- After a value comes the next step. -/
lemma ok_bind (a : α) (f : α → Except ε β) : (Except.ok a >>= f) = f a := rfl

/-- After a refusal comes nothing. -/
lemma error_bind (e : ε) (f : α → Except ε β) : (Except.error e >>= f) = .error e := rfl

/-- Two steps in a row end with a value exactly when both have one. -/
lemma bind_eq_ok_iff {x : Except ε α} {f : α → Except ε β} {b : β} :
    (x >>= f) = .ok b ↔ ∃ a, x = .ok a ∧ f a = .ok b := by
  cases x with
  | error e =>
    constructor
    · exact nofun
    · rintro ⟨a, ha, -⟩
      exact absurd ha nofun
  | ok a =>
    constructor
    · exact fun h => ⟨a, rfl, h⟩
    · rintro ⟨a', ha, h⟩
      obtain rfl := Except.ok.inj ha
      exact h

/-- Two steps in a row are refused when the first is, or the second after it. -/
lemma bind_eq_error_iff {x : Except ε α} {f : α → Except ε β} {e : ε} :
    (x >>= f) = .error e ↔ x = .error e ∨ ∃ a, x = .ok a ∧ f a = .error e := by
  cases x with
  | error e' => simp [error_bind]
  | ok a => simp [ok_bind]

/-- A reworded refusal leaves values as they are. -/
lemma mapError_eq_ok_iff {f : ε → ε'} {x : Except ε α} {a : α} :
    x.mapError f = .ok a ↔ x = .ok a := by
  cases x <;> simp [Except.mapError]

/-- A value made of a value is there when the value is. -/
lemma map_eq_ok_iff {f : α → β} {x : Except ε α} {b : β} :
    x.map f = .ok b ↔ ∃ a, x = .ok a ∧ f a = b := by
  cases x <;> simp [Except.map]

/-- A value made of a value is refused as the value is. -/
lemma map_eq_error_iff {f : α → β} {x : Except ε α} {e : ε} :
    x.map f = .error e ↔ x = .error e := by
  cases x <;> simp [Except.map]

/-- A member of a list has a partner in a list that is related to it one by one. -/
lemma exists_of_forall₂ {R : α → β → Prop} {x : α} :
    ∀ {xs : List α} {ys : List β}, List.Forall₂ R xs ys → x ∈ xs → ∃ y ∈ ys, R x y
  | _, _, .nil, hx => absurd hx List.not_mem_nil
  | _, _, .cons hab hrest, hx => by
    rcases List.mem_cons.mp hx with rfl | hx
    · exact ⟨_, List.mem_cons_self, hab⟩
    · obtain ⟨y, hy, hxy⟩ := exists_of_forall₂ hrest hx
      exact ⟨y, List.mem_cons_of_mem _ hy, hxy⟩

/-- A step on each member of a list has a value exactly when it has one on every member. -/
lemma mapM_eq_ok_iff {f : α → Except ε β} : ∀ {xs : List α} {ys : List β},
    xs.mapM f = .ok ys ↔ List.Forall₂ (fun x y => f x = .ok y) xs ys
  | [], ys => by
    rw [List.mapM_nil, List.forall₂_nil_left_iff]
    exact ⟨fun h => (Except.ok.inj h).symm, fun h => h ▸ rfl⟩
  | x :: xs, ys => by
    rw [List.mapM_cons, bind_eq_ok_iff, List.forall₂_cons_left_iff]
    constructor
    · rintro ⟨y, hy, h⟩
      obtain ⟨ys', hys', h⟩ := bind_eq_ok_iff.mp h
      exact ⟨y, ys', hy, mapM_eq_ok_iff.mp hys', (Except.ok.inj h).symm⟩
    · rintro ⟨y, ys', hy, hys', rfl⟩
      exact ⟨y, hy, bind_eq_ok_iff.mpr ⟨ys', mapM_eq_ok_iff.mpr hys', rfl⟩⟩

/-- The values of a step on the members of a list. -/
lemma mem_of_mapM_eq_ok {f : α → Except ε β} {xs : List α} {ys : List β}
    (h : xs.mapM f = .ok ys) {y : β} : y ∈ ys ↔ ∃ x ∈ xs, f x = .ok y := by
  have hall := mapM_eq_ok_iff.mp h
  clear h
  induction hall with
  | nil => simp
  | cons hx _ ih => simp [ih, hx, eq_comm]

/-- A step on each member of a list has a value when it has one on every member. -/
lemma mapM_isOk_iff {f : α → Except ε β} : ∀ {xs : List α},
    (∃ ys, xs.mapM f = .ok ys) ↔ ∀ x ∈ xs, ∃ y, f x = .ok y
  | [] => ⟨fun _ x hx => absurd hx List.not_mem_nil, fun _ => ⟨[], rfl⟩⟩
  | x :: xs => by
    rw [List.forall_mem_cons, ← mapM_isOk_iff, List.mapM_cons]
    constructor
    · rintro ⟨ys, h⟩
      obtain ⟨y, hy, h⟩ := bind_eq_ok_iff.mp h
      obtain ⟨ys', hys', -⟩ := bind_eq_ok_iff.mp h
      exact ⟨⟨y, hy⟩, ys', hys'⟩
    · rintro ⟨⟨y, hy⟩, ys, hys⟩
      exact ⟨y :: ys, bind_eq_ok_iff.mpr ⟨y, hy, bind_eq_ok_iff.mpr ⟨ys, hys, rfl⟩⟩⟩

/-- A step on each member of a list is refused as it is on one of them. -/
lemma exists_of_mapM_eq_error {f : α → Except ε β} {e : ε} : ∀ {xs : List α},
    xs.mapM f = .error e → ∃ x ∈ xs, f x = .error e
  | [], h => absurd h nofun
  | x :: xs, h => by
    rw [List.mapM_cons, bind_eq_error_iff] at h
    rcases h with hx | ⟨y, -, h⟩
    · exact ⟨x, List.mem_cons_self, hx⟩
    · rcases bind_eq_error_iff.mp h with hxs | ⟨ys, -, h⟩
      · obtain ⟨x', hx', hfails⟩ := exists_of_mapM_eq_error hxs
        exact ⟨x', List.mem_cons_of_mem _ hx', hfails⟩
      · exact absurd h nofun

/-- The values on the members of a list of a step that can only give `g`. -/
lemma eq_map_of_mapM_eq_ok {f : α → Except ε β} {g : α → β}
    (hg : ∀ x y, f x = .ok y → y = g x) :
    ∀ {xs : List α} {ys : List β}, xs.mapM f = .ok ys → ys = xs.map g
  | [], _, h => (Except.ok.inj h).symm
  | x :: xs, ys, h => by
    rw [List.mapM_cons] at h
    obtain ⟨y, hy, h⟩ := bind_eq_ok_iff.mp h
    obtain ⟨ys', hys', h⟩ := bind_eq_ok_iff.mp h
    rw [← Except.ok.inj h, hg x y hy, eq_map_of_mapM_eq_ok hg hys', List.map_cons]

/-- What the members of two lists agree on, one by one, the lists agree on. -/
lemma map_eq_of_forall₂ {γ : Type} {R : α → β → Prop} {f : α → γ} {g : β → γ}
    (hfg : ∀ a b, R a b → f a = g b) {xs : List α} {ys : List β} (h : List.Forall₂ R xs ys) :
    xs.map f = ys.map g := by
  have hmap : List.Forall₂ Eq (xs.map f) (ys.map g) := List.rel_map (fun a b hab => hfg a b hab) h
  rwa [List.forall₂_eq_eq_eq] at hmap

/-! ## Two steps that end alike -/

/-- Two steps end with the same refusal, or with values that are in a relation. -/
inductive Alike (R : α → β → Prop) : Except ε α → Except ε β → Prop
  | ok {a : α} {b : β} (h : R a b) : Alike R (.ok a) (.ok b)
  | error (e : ε) : Alike R (.error e) (.error e)

namespace Alike

variable {γ δ : Type} {R : α → β → Prop} {S : γ → δ → Prop}

/-- Next steps that end alike on like values make chains that end alike. -/
lemma bind {x : Except ε α} {y : Except ε β} {f : α → Except ε γ} {g : β → Except ε δ}
    (h : Alike R x y) (hnext : ∀ a b, R a b → Alike S (f a) (g b)) :
    Alike S (x >>= f) (y >>= g) := by
  cases h with
  | ok hab => exact hnext _ _ hab
  | error e => exact Alike.error e

/-- Steps that end alike on like values end alike on lists of like members. -/
lemma mapM {f : α → Except ε γ} {g : β → Except ε δ} (hstep : ∀ a b, R a b → Alike S (f a) (g b)) :
    ∀ {xs : List α} {ys : List β}, List.Forall₂ R xs ys →
      Alike (List.Forall₂ S) (xs.mapM f) (ys.mapM g)
  | _, _, .nil => Alike.ok .nil
  | _, _, .cons hab hrest => by
    rw [List.mapM_cons, List.mapM_cons]
    exact (hstep _ _ hab).bind fun c d hcd => (mapM hstep hrest).bind fun cs ds hcds =>
      Alike.ok (.cons hcd hcds)

/-- Refusals are reworded alike. -/
lemma mapError {x : Except ε α} {y : Except ε β} (f : ε → ε') (h : Alike R x y) :
    Alike R (x.mapError f) (y.mapError f) := by
  cases h with
  | ok hab => exact Alike.ok hab
  | error e => exact Alike.error (f e)

/-- What like values agree on, the ends agree on. -/
lemma map_eq {x : Except ε α} {y : Except ε β} {f : α → γ} {g : β → γ} (h : Alike R x y)
    (hfg : ∀ a b, R a b → f a = g b) : x.map f = y.map g := by
  cases h with
  | ok hab => rw [Except.map, Except.map, hfg _ _ hab]
  | error e => rfl

end Alike

/-! ## A step that has a value if another one has -/

/-- If the first of two steps has a value, so has the second. -/
def Follows (x : Except ε α) (y : Except ε' β) : Prop := (∃ a, x = .ok a) → ∃ b, y = .ok b

namespace Follows

variable {γ δ : Type}

/-- A step follows itself. -/
lemma refl (x : Except ε α) : Follows x x := id

/-- A refusal is followed by anything. -/
lemma of_error (e : ε) (y : Except ε' β) : Follows (.error e : Except ε α) y :=
  fun ⟨_, h⟩ => absurd h nofun

/-- A value follows anything. -/
lemma of_ok (x : Except ε α) (b : β) : Follows x (.ok b : Except ε' β) := fun _ => ⟨b, rfl⟩

/-- Steps in a row follow steps in a row. -/
lemma bind {x : Except ε α} {y : Except ε' β} {f : α → Except ε γ} {g : β → Except ε' δ}
    (h : Follows x y) (hnext : ∀ a b, x = .ok a → y = .ok b → Follows (f a) (g b)) :
    Follows (x >>= f) (y >>= g) := by
  rintro ⟨c, hc⟩
  obtain ⟨a, ha, hc⟩ := bind_eq_ok_iff.mp hc
  obtain ⟨b, hb⟩ := h ⟨a, ha⟩
  obtain ⟨d, hd⟩ := hnext a b ha hb ⟨c, hc⟩
  exact ⟨d, bind_eq_ok_iff.mpr ⟨b, hb, hd⟩⟩

/-- So they do after one and the same step. -/
lemma bind_same {x : Except ε α} {f : α → Except ε γ} {g : α → Except ε δ}
    (hnext : ∀ a, Follows (f a) (g a)) : Follows (x >>= f) (x >>= g) := by
  cases x with
  | error e => exact of_error e _
  | ok a => exact hnext a

/-- A value made of a value is there whenever the value is. -/
lemma map {x : Except ε α} {y : Except ε' β} {f : α → γ} {g : β → δ} (h : Follows x y) :
    Follows (x.map f) (y.map g) := by
  rintro ⟨c, hc⟩
  cases x with
  | error e => exact absurd hc nofun
  | ok a =>
    obtain ⟨b, rfl⟩ := h ⟨a, rfl⟩
    exact ⟨g b, rfl⟩

/-- A step on each member of a list follows one on the members of another, if for every member of
the one there is one of the other that it follows. -/
lemma mapM {f : α → Except ε γ} {g : β → Except ε' δ} {xs : List α} {ys : List β}
    (h : ∀ y ∈ ys, ∃ x ∈ xs, Follows (f x) (g y)) : Follows (xs.mapM f) (ys.mapM g) := by
  intro hxs
  rw [mapM_isOk_iff] at hxs ⊢
  intro y hy
  obtain ⟨x, hx, hxy⟩ := h y hy
  exact hxy (hxs x hx)

end Follows

/-! ## The reasons for a refusal -/

/-- If a step is refused, it is for a reason in `P`. -/
def RefusedFor (P : ε → Prop) (x : Except ε α) : Prop := ∀ e, x = .error e → P e

namespace RefusedFor

variable {γ : Type} {P : ε → Prop}

/-- A value is not refused. -/
lemma ok (a : α) : RefusedFor P (.ok a : Except ε α) := fun _ h => absurd h nofun

/-- A refusal has its own reason. -/
lemma error {e : ε} (h : P e) : RefusedFor P (.error e : Except ε α) :=
  fun _ he => Except.error.inj he ▸ h

/-- Steps in a row are refused for the reasons of either. -/
lemma bind {x : Except ε α} {f : α → Except ε γ} (h : RefusedFor P x)
    (hnext : ∀ a, x = .ok a → RefusedFor P (f a)) : RefusedFor P (x >>= f) := by
  intro e he
  rcases bind_eq_error_iff.mp he with hx | ⟨a, ha, hf⟩
  · exact h e hx
  · exact hnext a ha e hf

/-- A value made of a value is refused for the reasons of that value. -/
lemma map {x : Except ε α} {f : α → γ} (h : RefusedFor P x) : RefusedFor P (x.map f) :=
  fun e he => h e (map_eq_error_iff.mp he)

/-- A step on each member of a list is refused for the reasons of one of them. -/
lemma mapM {f : α → Except ε γ} {xs : List α} (h : ∀ x ∈ xs, RefusedFor P (f x)) :
    RefusedFor P (xs.mapM f) := by
  intro e he
  obtain ⟨x, hx, hfails⟩ := exists_of_mapM_eq_error he
  exact h x hx e hfails

end RefusedFor

end QueryGate.Outcome
