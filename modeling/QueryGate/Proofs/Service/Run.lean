import Mathlib.Data.List.Basic
import QueryGate.Service.Session

set_option relaxedAutoImplicit false
set_option autoImplicit false

/-!
# Steps of a session

How the steps of a session follow one another, and what they leave of the state.

## Main definitions

* `QueryGate.Service.Session.ends` — how a step ends from a state, and the state that it leaves.
* `QueryGate.Service.Session.Leaves` — a relation between the states before and after a step,
  however it ends.

## Main results

* `QueryGate.Service.Session.ends_bind` — two steps one after the other.
* `QueryGate.Service.Session.Leaves.bind`, `QueryGate.Service.Session.Leaves.foldlM`,
  `QueryGate.Service.Session.Leaves.mapM` — what steps leave one by one, they leave in a row.
-/

namespace QueryGate.Service

namespace Session

variable {α β : Type}

/-- How a step ends from a state, and the state that it leaves. -/
def ends (x : Session α) (s : State) : Except Halt α × State := x.run.run s

/-- A value. -/
@[simp] lemma ends_pure (a : α) (s : State) : (pure a : Session α).ends s = (.ok a, s) := rfl

/-- The state itself. -/
@[simp] lemma ends_get (s : State) : (get : Session State).ends s = (.ok s, s) := rfl

/-- A new state. -/
@[simp] lemma ends_set (s t : State) : (set t : Session Unit).ends s = (.ok (), t) := rfl

/-- A changed state. -/
@[simp] lemma ends_modify (f : State → State) (s : State) :
    (modify f : Session Unit).ends s = (.ok (), f s) := rfl

/-- No value. -/
@[simp] lemma ends_throw (halt : Halt) (s : State) :
    (throw halt : Session α).ends s = (.error halt, s) := rfl

/-- A failure. -/
@[simp] lemma ends_fail (failure : Failure) (s : State) :
    (fail failure : Session α).ends s = (.error (.failed failure), s) := rfl

/-- A value or a failure. -/
@[simp] lemma ends_ofExcept_ok (a : α) (s : State) : (ofExcept (.ok a)).ends s = (.ok a, s) := rfl

/-- A value or a failure. -/
@[simp] lemma ends_ofExcept_error (failure : Failure) (s : State) :
    (ofExcept (.error failure) : Session α).ends s = (.error (.failed failure), s) := rfl

/-- One step after another. The second is taken where the first has a value. -/
lemma ends_bind (x : Session α) (f : α → Session β) (s : State) :
    (x >>= f).ends s =
      match x.ends s with
      | (.ok a, t) => (f a).ends t
      | (.error halt, t) => (.error halt, t) := by
  change ExceptT.bindCont (m := StateM State) f (x.ends s).1 (x.ends s).2 = _
  rcases x.ends s with ⟨_ | _, t⟩ <;> rfl

/-- The first of two steps has a value. -/
lemma ends_bind_ok {x : Session α} {s t : State} {a : α} (h : x.ends s = (.ok a, t))
    (f : α → Session β) : (x >>= f).ends s = (f a).ends t := by
  rw [ends_bind, h]

/-- The first of two steps has no value. -/
lemma ends_bind_error {x : Session α} {s t : State} {halt : Halt}
    (h : x.ends s = (.error halt, t)) (f : α → Session β) :
    (x >>= f).ends s = (.error halt, t) := by
  rw [ends_bind, h]

/-- Two steps have a value only if both have one. -/
lemma exists_of_ends_bind {x : Session α} {f : α → Session β} {s : State} {b : β}
    (h : ((x >>= f).ends s).1 = .ok b) :
    ∃ a t, x.ends s = (.ok a, t) ∧ ((f a).ends t).1 = .ok b := by
  rw [ends_bind] at h
  rcases hends : x.ends s with ⟨halt | a, t⟩ <;> rw [hends] at h
  · exact absurd h nofun
  · exact ⟨a, t, rfl, h⟩

/-- A step that ends without a value does not end with one. -/
lemma error_ne_ok {halt : Halt} {s t : State} {a : α} :
    ((.error halt, s) : Except Halt α × State) ≠ (.ok a, t) := by simp

/-- Two steps end with a value when both have one, the second from where the first one ends. -/
lemma ends_bind_eq_ok {x : Session α} {f : α → Session β} {s u : State} {b : β}
    (h : (x >>= f).ends s = (.ok b, u)) :
    ∃ a t, x.ends s = (.ok a, t) ∧ (f a).ends t = (.ok b, u) := by
  obtain ⟨a, t, hfirst, -⟩ := exists_of_ends_bind (congrArg Prod.fst h)
  rw [ends_bind_ok hfirst] at h
  exact ⟨a, t, hfirst, h⟩

/-- A value or a failure that is a value. -/
lemma ends_ofExcept_eq_ok {x : Except Failure α} {s t : State} {a : α}
    (h : (ofExcept x).ends s = (.ok a, t)) : x = .ok a ∧ t = s := by
  cases x with
  | error failure => exact absurd h error_ne_ok
  | ok a' =>
    obtain ⟨ha, rfl⟩ := Prod.mk.inj h
    exact ⟨congrArg Except.ok (Except.ok.inj ha), rfl⟩

/-- The end of a step as a value. -/
lemma ends_attempt (x : Session α) (s : State) :
    (attempt x).ends s =
      match x.ends s with
      | (.ok a, t) => (.ok (.ok a), t)
      | (.error (.failed failure), t) => (.ok (.error failure), t)
      | (.error halt, t) => (.error halt, t) := by
  have hrun : x s = x.ends s := rfl
  unfold attempt ends
  simp only [tryCatch, tryCatchThe, MonadExceptOf.tryCatch, ExceptT.tryCatch, Functor.map,
    ExceptT.map, ExceptT.run, ExceptT.mk, StateT.bind, StateT.run, bind, hrun]
  rcases x.ends s with ⟨halt | a, t⟩
  · cases halt <;> rfl
  · rfl

/-- The end of a step as a value leaves the same state. -/
lemma snd_ends_attempt (x : Session α) (s : State) : ((attempt x).ends s).2 = (x.ends s).2 := by
  rw [ends_attempt]
  rcases x.ends s with ⟨halt | a, t⟩
  · cases halt <;> rfl
  · rfl

/-- A second step that changes nothing. -/
lemma snd_ends_bind {x : Session α} {f : α → Session β} (hf : ∀ a t, ((f a).ends t).2 = t)
    (s : State) : ((x >>= f).ends s).2 = (x.ends s).2 := by
  rw [ends_bind]
  rcases x.ends s with ⟨halt | a, t⟩
  · rfl
  · exact hf a t

/-! ## What steps leave -/

/-- The states before and after a step are in a relation, however the step ends. -/
def Leaves (R : State → State → Prop) (x : Session α) : Prop := ∀ s, R s (x.ends s).2

namespace Leaves

variable {R : State → State → Prop}

/-- A value. -/
lemma pure [Std.Refl R] (a : α) : Leaves R (Pure.pure a : Session α) := fun s => refl_of R s

/-- A value or a failure. -/
lemma ofExcept [Std.Refl R] : ∀ x : Except Failure α, Leaves R (Session.ofExcept x)
  | .ok _ => fun s => refl_of R s
  | .error _ => fun s => refl_of R s

/-- Two steps in a row. -/
lemma bind [IsTrans State R] {x : Session α} {f : α → Session β} (hx : x.Leaves R)
    (hf : ∀ a, (f a).Leaves R) : (x >>= f).Leaves R := by
  intro s
  have hfirst := hx s
  rw [ends_bind]
  rcases hends : x.ends s with ⟨halt | a, t⟩ <;> rw [hends] at hfirst
  · exact hfirst
  · exact IsTrans.trans _ _ _ hfirst (hf a t)

/-- The end of a step as a value. -/
lemma attempt {x : Session α} (hx : x.Leaves R) : (attempt x).Leaves R := by
  intro s
  have hstep := hx s
  rw [ends_attempt]
  rcases hends : x.ends s with ⟨halt | a, t⟩ <;> rw [hends] at hstep
  · cases halt <;> exact hstep
  · exact hstep

/-- A step for each member of a list. -/
lemma foldlM [Std.Refl R] [IsTrans State R] {f : β → α → Session β}
    (hf : ∀ b a, (f b a).Leaves R) : ∀ (xs : List α) (b : β), (xs.foldlM f b).Leaves R
  | [], b => pure b
  | x :: xs, b => by
    rw [List.foldlM_cons]
    exact (hf b x).bind fun b' => foldlM hf xs b'

/-- A value or a failure, and what follows a value. -/
lemma ofExcept_bind [Std.Refl R] {x : Except Failure α} {f : α → Session β}
    (h : ∀ a, x = .ok a → (f a).Leaves R) : (Session.ofExcept x >>= f).Leaves R := by
  intro s
  cases x with
  | error failure =>
    rw [ends_bind_error (ends_ofExcept_error failure s)]
    exact refl_of R s
  | ok a =>
    rw [ends_bind_ok (ends_ofExcept_ok a s)]
    exact h a rfl s

/-- A step for each member of a list, with the values kept. -/
lemma mapM [Std.Refl R] [IsTrans State R] {f : α → Session β} (h : ∀ a, (f a).Leaves R) :
    ∀ as : List α, (as.mapM f).Leaves R
  | [] => by
    rw [List.mapM_nil]
    exact pure []
  | a :: as => by
    rw [List.mapM_cons]
    exact (h a).bind fun b => (mapM h as).bind fun bs => pure (b :: bs)

end Leaves

end Session

end QueryGate.Service
