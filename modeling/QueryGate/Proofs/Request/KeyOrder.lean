import QueryGate.Proofs.Json.KeyOrder
import QueryGate.Proofs.Request.Accepted
import QueryGate.Proofs.Request.Check
import QueryGate.Request.Codec

set_option relaxedAutoImplicit false
set_option autoImplicit false

/-!
# Requests up to the order of keys

Two requests with one canonical text differ at most in the order of the keys in their objects.

## Main definitions

* `QueryGate.QueryRequest.Alike` — two requests that differ at most in the order of keys.

## Main results

* `QueryGate.QueryRequest.alike_of_canonical` — requests with one canonical text are such.
* `QueryGate.QueryRequest.Alike.showable` — if one of them can be shown, so can the other.
-/

namespace QueryGate

open Json Outcome

/-- Sort orders are told apart by what they are written as. -/
lemma OrderSpec.eq_of_alike {a b : OrderSpec} (h : Json.Alike a.toJson b.toJson) : a = b := by
  have hopening := h.opening_eq
  cases a <;> cases b <;> simp [toJson, opening, Json.strings] at hopening
  case none.none => rfl
  case one.one => rw [Json.str.inj h.str]
  case many.many => rw [Json.Alike.strings h]

namespace QueryRequest

/-- Two requests that differ at most in the order of the keys of their objects. -/
structure Alike (r r' : QueryRequest) : Prop where
  /-- The datasets. -/
  fileId : r.fileId = r'.fileId
  /-- The columns to show. -/
  select : r.select = r'.select
  /-- The conditions on rows. -/
  filters : Members.Alike r.filters r'.filters
  /-- The columns to group by. -/
  groupBy : r.groupBy = r'.groupBy
  /-- The sort orders. -/
  orderBy : r.orderBy = r'.orderBy
  /-- The most rows wanted. -/
  limit : r.limit = r'.limit
  /-- The numbers of rows to pass over. -/
  offset : r.offset = r'.offset
  /-- The aggregation functions. -/
  aggregations : Members.Alike r.aggregations r'.aggregations
  /-- The conditions on groups. -/
  having : Members.Alike r.having r'.having

/-- **Requests with one canonical text differ at most in the order of keys.** -/
theorem alike_of_canonical {r r' : QueryRequest}
    (h : r.toJson.canonical = r'.toJson.canonical) : r.Alike r' := by
  have hfields := (Json.alike_of_canonical h).record rfl (by
    simp only [List.map_cons, List.map_nil]
    decide)
  simp only [List.forall₂_cons, MemberAlike, true_and, List.Forall₂.nil, and_true] at hfields
  obtain ⟨hfile, hselect, hfilters, hgroups, horder, hlimit, hoffset, haggregations, hhaving⟩ :=
    hfields
  exact {
    fileId := (Json.str.inj hfile.str).symm
    select := hselect.strings
    filters := hfilters.members
    groupBy := hgroups.strings
    orderBy := OrderSpec.eq_of_alike horder
    limit := hlimit.ofNat?
    offset := hoffset.ofNat?
    aggregations := haggregations.members
    having := hhaving.members }

namespace Alike

variable {limits limits' : Limits} {r r' : QueryRequest} {q q' : Query}

/-- The same columns are aggregated with the same functions. -/
lemma mem_aggregations_iff (h : r.Alike r') (hq : r.Reads limits q) (hq' : r'.Reads limits' q')
    {a : Ident × Aggregator} : a ∈ q.aggregations ↔ a ∈ q'.aggregations := by
  have hread := mapM_isOk_iff.mp ⟨_, hq.aggregations⟩
  rw [mem_of_mapM_eq_ok hq.aggregations, mem_of_mapM_eq_ok hq'.aggregations]
  constructor
  · rintro ⟨⟨k, v⟩, hm, ha⟩
    obtain ⟨⟨l, w⟩, hn, hkey, hvalue⟩ := h.aggregations.exists_right hm
    obtain ⟨func, rfl⟩ := readAggregation_eq_ok ha
    obtain rfl : w = .str func := hvalue.str
    obtain rfl : k = l := hkey
    exact ⟨_, hn, ha⟩
  · rintro ⟨⟨l, w⟩, hn, ha⟩
    obtain ⟨⟨k, v⟩, hm, hkey, hvalue⟩ := h.aggregations.exists_left hn
    -- The other request was read as well, so its function is a text, and this one is the same.
    obtain ⟨b, hb⟩ := hread _ hm
    obtain ⟨func, rfl⟩ := readAggregation_eq_ok hb
    obtain rfl : w = .str func := hvalue.str
    obtain rfl : k = l := hkey
    exact ⟨_, hm, ha⟩

/-- Conditions on groups are about the same columns. -/
lemma exists_having (h : r.Alike r') (hq : r.Reads limits q) (hq' : r'.Reads limits' q')
    {f : ColumnFilter} (hf : f ∈ q.having) : ∃ f' ∈ q'.having, f'.column = f.column := by
  have hname : f.column.text ∈ r'.having.map (·.1) := by
    rw [← h.having.perm_keys.mem_iff, ← exists_filter_iff hq.having]
    exact ⟨f, hf, rfl⟩
  obtain ⟨f', hf', hcolumn⟩ := (exists_filter_iff hq'.having _).mpr hname
  exact ⟨f', hf', Ident.eq_of_text hcolumn⟩

/-- **The order of keys does not decide whether a query can be shown.** -/
theorem showable (h : r.Alike r') (hq : r.Reads limits q) (hq' : r'.Reads limits' q')
    (hshow : q'.Showable) : q.Showable := by
  have hmem := fun {a} => h.mem_aggregations_iff hq hq' (a := a)
  have hselect : q.select = q'.select := by
    have hread := hq.select
    rw [h.select, hq'.select] at hread
    exact (Except.ok.inj hread).symm
  have hgroupBy : q.groupBy = q'.groupBy := by
    have hread := hq.groupBy
    rw [h.groupBy, hq'.groupBy] at hread
    exact (Except.ok.inj hread).symm
  have hsome : q.aggregations ≠ [] ↔ q'.aggregations ≠ [] := by
    rw [ne_eq, ne_eq, List.eq_nil_iff_forall_not_mem, List.eq_nil_iff_forall_not_mem]
    simp only [hmem]
  refine ⟨fun a ha => hshow.named a (hmem.mp ha), fun haggregates c hc => ?_, fun f hf => ?_⟩
  · rw [hselect] at hc
    have hgrouped := hshow.grouped (hsome.mp haggregates) c hc
    simpa only [hmem, hgroupBy] using hgrouped
  · obtain ⟨f', hf', hcolumn⟩ := h.exists_having hq hq' hf
    have hknown := hshow.known f' hf'
    rw [hcolumn] at hknown
    simpa only [hmem, hgroupBy, hsome] using hknown

end Alike

end QueryRequest

end QueryGate
