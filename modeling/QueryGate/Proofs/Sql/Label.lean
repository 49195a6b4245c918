import QueryGate.Proofs.Request.Accepted
import QueryGate.Proofs.Request.Check
import QueryGate.Proofs.Text.Fields

set_option relaxedAutoImplicit false
set_option autoImplicit false

/-!
# Generated names

A value gets the name of its column, an underscore and the end that goes with its function.

## Main results

* `QueryGate.Aggregate.label_of_make` — the name of a value.
* `QueryGate.Aggregate.eq_of_label` — generated names tell columns and functions apart.
-/

namespace QueryGate

/-- The end of a generated name holds no underscore. -/
lemma Aggregator.underscore_not_mem_suffix (f : Aggregator) : '_' ∉ f.suffix.toList := by
  cases f <;> decide

/-- Functions are told apart by the ends of the names that they generate. -/
lemma Aggregator.suffix_injective : Function.Injective Aggregator.suffix := by
  intro f g h
  cases f <;> cases g <;> first | rfl | exact absurd h (by decide)

namespace Aggregate

variable {a b : Aggregate}

/-- The generated name of a value. -/
lemma label_of_make {source : Ident} {func : Aggregator}
    (h : make source func = .ok a) : a.label.text = source.text ++ "_" ++ func.suffix := by
  unfold make Ident.withSuffix at h
  cases hlabel : Ident.column (source.text ++ "_" ++ func.suffix) with
  | error r =>
    rw [hlabel] at h
    exact absurd h nofun
  | ok label =>
    rw [hlabel] at h
    obtain rfl := Except.ok.inj h
    exact Ident.column_eq_ok_iff.mp hlabel

/-- **Generated names tell columns and functions apart**: the last underscore of a name stands
between the two. -/
theorem eq_of_label {c d : Ident × Aggregator} (ha : make c.1 c.2 = .ok a)
    (hb : make d.1 d.2 = .ok b) (h : a.label = b.label) : c = d := by
  have htext : c.1.text ++ "_" ++ c.2.suffix = d.1.text ++ "_" ++ d.2.suffix := by
    rw [← label_of_make ha, ← label_of_make hb, h]
  obtain ⟨hsource, hsuffix⟩ := Text.eq_of_last_sep
    c.2.underscore_not_mem_suffix d.2.underscore_not_mem_suffix htext
  exact Prod.ext (Ident.eq_of_text hsource) (Aggregator.suffix_injective hsuffix)

end Aggregate

end QueryGate
