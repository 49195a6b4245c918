import Mathlib.Data.List.Nodup

set_option relaxedAutoImplicit false
set_option autoImplicit false

/-!
# First mentions

A list whose repeats are removed holds what the list mentions, each once, in the order of first
mention.

## Main definitions

* `QueryGate.FirstMentions` — what a list mentions, each once, in the order of first mention.

## Main results

* `QueryGate.firstMentions_eraseDups` — that is what is left when repeats are removed.
-/

namespace QueryGate

variable {α : Type} [BEq α]

/-- What a list mentions, each once, in the order of first mention. -/
structure FirstMentions (mentions kept : List α) : Prop where
  /-- Everything mentioned is kept, and nothing else. -/
  mem : ∀ a, a ∈ kept ↔ a ∈ mentions
  /-- What is mentioned first stands first, and what stands behind it is something else. -/
  order : kept.Pairwise fun a b => mentions.idxOf a < mentions.idxOf b

/-- What is kept is kept once. -/
lemma FirstMentions.nodup {mentions kept : List α} (h : FirstMentions mentions kept) :
    kept.Nodup :=
  h.order.imp fun hlt heq => absurd (heq ▸ hlt) (Nat.lt_irrefl _)

variable [LawfulBEq α]

/-- Members that stay when others are left out keep their order. -/
lemma idxOf_lt_of_filter (keep : α → Bool) {a b : α} (ha : keep a = true) (hb : keep b = true) :
    ∀ {xs : List α}, (xs.filter keep).idxOf a < (xs.filter keep).idxOf b →
      xs.idxOf a < xs.idxOf b
  | [], h => absurd h (Nat.lt_irrefl _)
  | x :: xs, h => by
    by_cases hx : keep x = true
    · rw [List.filter_cons_of_pos hx] at h
      by_cases hbx : x = b
      · subst hbx
        rw [List.idxOf_cons_self] at h
        exact absurd h (Nat.not_lt_zero _)
      · by_cases hax : x = a
        · subst hax
          rw [List.idxOf_cons_self, List.idxOf_cons_ne _ hbx]
          exact Nat.succ_pos _
        · rw [List.idxOf_cons_ne _ hax, List.idxOf_cons_ne _ hbx] at h ⊢
          exact Nat.succ_lt_succ (idxOf_lt_of_filter keep ha hb (Nat.lt_of_succ_lt_succ h))
    · rw [List.filter_cons_of_neg hx] at h
      have hax : x ≠ a := by rintro rfl; exact hx ha
      have hbx : x ≠ b := by rintro rfl; exact hx hb
      rw [List.idxOf_cons_ne _ hax, List.idxOf_cons_ne _ hbx]
      exact Nat.succ_lt_succ (idxOf_lt_of_filter keep ha hb h)

/-- What is left when repeats are removed stands in the order of first mention. -/
lemma pairwise_eraseDups :
    ∀ mentions : List α, mentions.eraseDups.Pairwise fun a b => mentions.idxOf a < mentions.idxOf b
  | [] => by simp
  | x :: xs => by
    have hother : ∀ b ∈ (xs.filter fun b => !b == x).eraseDups, (!b == x) = true := fun b hb =>
      (List.mem_filter.mp (List.mem_eraseDups.mp hb)).2
    have hne : ∀ b ∈ (xs.filter fun b => !b == x).eraseDups, x ≠ b := by
      rintro b hb rfl
      simpa using hother x hb
    rw [List.eraseDups_cons, List.pairwise_cons]
    refine ⟨fun b hb => ?_, (pairwise_eraseDups _).imp_of_mem fun {a b} ha hb hlt => ?_⟩
    · rw [List.idxOf_cons_self, List.idxOf_cons_ne _ (hne b hb)]
      exact Nat.succ_pos _
    · rw [List.idxOf_cons_ne _ (hne a ha), List.idxOf_cons_ne _ (hne b hb)]
      exact Nat.succ_lt_succ
        (idxOf_lt_of_filter (fun b => !b == x) (hother a ha) (hother b hb) hlt)
termination_by mentions => mentions.length
decreasing_by exact Nat.lt_succ_of_le (List.length_filter_le _ _)

/-- **A list without its repeats holds its first mentions.** -/
theorem firstMentions_eraseDups (mentions : List α) : FirstMentions mentions mentions.eraseDups :=
  ⟨fun _ => List.mem_eraseDups, pairwise_eraseDups mentions⟩

end QueryGate
