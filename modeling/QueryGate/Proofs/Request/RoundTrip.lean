import QueryGate.Proofs.Cache.Key
import QueryGate.Proofs.Json.Shape
import QueryGate.Proofs.Request.Acceptance

set_option relaxedAutoImplicit false
set_option autoImplicit false

/-!
# Requests written and read again

A request is written with every field filled in, and what is written is read back as the request.
So a request that was read in any of the ways that are taken, as an object or as a list, with
fields left out or keys repeated, is not changed by being written and read again.

## Main definitions

* `QueryGate.QueryRequest.WellFormed`, `QueryGate.ComparisonRequest.WellFormed` — requests whose
  numbers fit 64 bits and whose objects hold every key once.
* `QueryGate.Json.RoundTrip` — a way of writing that is undone by reading.

## Main results

* `QueryGate.QueryRequest.ofJson_toJson`, `QueryGate.ComparisonRequest.ofJson_toJson` — a request
  is read back.
* `QueryGate.QueryRequest.wellFormed_of_shape`, `QueryGate.ComparisonRequest.wellFormed_of_shape` —
  what is read is such a request.
* `QueryGate.requests_roundTrip` — requests as a whole.
-/

namespace QueryGate

open Json Json.Shape

/-! ## Sort orders and directions -/

namespace OrderSpec

/-- Every form of a sort order is told from the others. -/
lemma ofJson_toJson (spec : OrderSpec) : ofJson spec.toJson = .ok spec := by
  cases spec with
  | none => rfl
  | one terms => rfl
  | many terms =>
    have htexts : (terms.map Json.str).mapM Json.text? = some terms := by
      induction terms with
      | nil => rfl
      | cons term rest ih => simp [Json.text?, ih]
    rw [toJson, strings, ofJson, htexts]

/-- A sort order is read back. -/
lemma shape_ofJson (spec : OrderSpec) : shape.ofJson spec.toJson = .ok spec := by
  have hdistinct : Distinct spec.toJson := by
    cases spec with
    | none => exact .bare rfl
    | one terms => exact .str terms
    | many terms =>
      refine .arr fun j hj => ?_
      obtain ⟨term, -, rfl⟩ := List.mem_map.mp hj
      exact .str term
  have hany : any (Draft.ofJson spec.toJson) = .ok spec.toJson := any_ofJson hdistinct
  rw [Shape.ofJson, shape, hany]
  exact ofJson_toJson spec

end OrderSpec

/-- A direction is read back. -/
lemma Direction.word_ofJson (d : Direction) : (word words).ofJson (.str d.text) = .ok d := by
  cases d <;> rfl

/-! ## Requests for rows -/

namespace QueryRequest

/-- Numbers fit 64 bits, and objects hold every key once at every depth. -/
structure WellFormed (r : QueryRequest) : Prop where
  /-- The conditions on rows. -/
  filters : Distinct (.obj r.filters)
  /-- The most rows wanted. -/
  limit : ∀ n ∈ r.limit, n ≤ Word.maxUnsigned
  /-- The number of rows to pass over. -/
  offset : ∀ n ∈ r.offset, n ≤ Word.maxUnsigned
  /-- The aggregation functions. -/
  aggregations : Distinct (.obj r.aggregations)
  /-- The conditions on groups. -/
  having : Distinct (.obj r.having)

variable {r : QueryRequest} {d : Draft}

/-- **A request for rows is read back from what it is written as.** -/
lemma ofJson_toJson (h : r.WellFormed) : ofJson r.toJson = .ok r := by
  have hfills : Fills fields [.str r.fileId, .strings r.select, .obj r.filters, .strings r.groupBy,
      r.orderBy.toJson, .ofNat? r.limit, .ofNat? r.offset, .obj r.aggregations, .obj r.having]
      { fileId := "" } r :=
    .required rfl <| .withDefault (list_string_ofJson _) <|
    .withDefault (object_ofJson h.filters) <| .withDefault (list_string_ofJson _) <|
    .withDefault (OrderSpec.shape_ofJson _) <| .withDefault (nullable_natural_ofJson h.limit) <|
    .withDefault (nullable_natural_ofJson h.offset) <|
    .withDefault (object_ofJson h.aggregations) <| .withDefault (object_ofJson h.having) <| .nil r
  exact hfills.record (by decide) "QueryRequest"

/-- A request for rows that is read has numbers that fit and objects that hold every key once. -/
lemma wellFormed_of_shape (h : shape d = .ok r) : r.WellFormed := by
  have hempty : Distinct (.obj []) := .obj List.nodup_nil fun m hm => absurd hm List.not_mem_nil
  have hblank : WellFormed { fileId := "" } := ⟨hempty, nofun, nofun, hempty, hempty⟩
  refine yields_record "QueryRequest" hblank ?_ d r h
  simp only [fields, List.forall_mem_cons]
  refine ⟨?fileId, ?select, ?filters, ?groupBy, ?orderBy, ?limit, ?offset, ?aggregations, ?having,
    List.forall_mem_nil _⟩
  case filters =>
    exact yields_object.keeps_withDefault (fun _ _ hv hr => { hr with filters := hv }) _
  case limit =>
    exact yields_natural.nullable.keeps_withDefault (fun _ _ hv hr => { hr with limit := hv }) _
  case offset =>
    exact yields_natural.nullable.keeps_withDefault (fun _ _ hv hr => { hr with offset := hv }) _
  case aggregations =>
    exact yields_object.keeps_withDefault (fun _ _ hv hr => { hr with aggregations := hv }) _
  case having =>
    exact yields_object.keeps_withDefault (fun _ _ hv hr => { hr with having := hv }) _
  -- The other fields hold texts, which may be any.
  case fileId => exact (yields_true _).keeps_required (fun _ _ _ hr => { hr with }) _
  all_goals exact (yields_true _).keeps_withDefault (fun _ _ _ hr => { hr with }) _

end QueryRequest

/-! ## Requests to compare years -/

namespace ComparisonRequest

/-- Numbers fit 64 bits, and objects hold every key once at every depth. -/
structure WellFormed (r : ComparisonRequest) : Prop where
  /-- The conditions on rows. -/
  filters : Distinct (.obj r.filters)
  /-- The first year. -/
  baseYear : Word.minSigned ≤ r.baseYear ∧ r.baseYear ≤ Word.maxSigned
  /-- The second year. -/
  compareYear : Word.minSigned ≤ r.compareYear ∧ r.compareYear ≤ Word.maxSigned
  /-- How many entries are wanted. -/
  topCount : ∀ n ∈ r.topCount, n ≤ Word.maxUnsigned

variable {r : ComparisonRequest} {d : Draft}

/-- **A request to compare years is read back from what it is written as.** -/
lemma ofJson_toJson (h : r.WellFormed) : ofJson r.toJson = .ok r := by
  have hfills : Fills fields [.str r.fileId, .obj r.filters, .str r.keyColumn, .str r.valueColumn,
      .str r.yearColumn, .int r.baseYear, .int r.compareYear, .ofNat? r.topCount,
      .str r.direction.text]
      { fileId := "", keyColumn := "", valueColumn := "", baseYear := 0, compareYear := 0 } r :=
    .required rfl <| .withDefault (object_ofJson h.filters) <| .required rfl <| .required rfl <|
    .withDefault rfl <| .required (signed_ofJson h.baseYear) <|
    .required (signed_ofJson h.compareYear) <| .withDefault (nullable_natural_ofJson h.topCount) <|
    .withDefault (Direction.word_ofJson _) <| .nil r
  exact hfills.record (by decide) "YoyRequest"

/-- A request to compare years that is read has numbers that fit and objects that hold every key
once. -/
lemma wellFormed_of_shape (h : shape d = .ok r) : r.WellFormed := by
  have hempty : Distinct (.obj []) := .obj List.nodup_nil fun m hm => absurd hm List.not_mem_nil
  have hzero : Word.minSigned ≤ 0 ∧ 0 ≤ Word.maxSigned := by decide
  refine yields_record "YoyRequest" ⟨hempty, hzero, hzero, nofun⟩ ?_ d r h
  simp only [fields, List.forall_mem_cons]
  refine ⟨?fileId, ?filters, ?key, ?value, ?year, ?baseYear, ?compareYear, ?topCount, ?direction,
    List.forall_mem_nil _⟩
  case filters =>
    exact yields_object.keeps_withDefault (fun _ _ hv hr => { hr with filters := hv }) _
  case baseYear =>
    exact (yields_integer _ _ _).keeps_required (fun _ _ hv hr => { hr with baseYear := hv }) _
  case compareYear =>
    exact (yields_integer _ _ _).keeps_required (fun _ _ hv hr => { hr with compareYear := hv }) _
  case topCount =>
    exact yields_natural.nullable.keeps_withDefault (fun _ _ hv hr => { hr with topCount := hv }) _
  -- The other fields hold texts and a word, which may be any.
  case year => exact (yields_true _).keeps_withDefault (fun _ _ _ hr => { hr with }) _
  case direction => exact (yields_true _).keeps_withDefault (fun _ _ _ hr => { hr with }) _
  all_goals exact (yields_true _).keeps_required (fun _ _ _ hr => { hr with }) _

end ComparisonRequest

/-! ## Both requests -/

/-- A way of writing that is undone by reading. Two values that are equal up to the order of keys
are `Alike`. -/
structure Json.RoundTrip {α : Type} (shape : Shape α) (toJson : α → Json) (WellFormed : α → Prop)
    (Alike : α → α → Prop) : Prop where
  /-- What is written is read back. -/
  back : ∀ a, WellFormed a → shape.ofJson (toJson a) = .ok a
  /-- Whatever it was read from, what is read is not changed by being written and read again. -/
  again : ∀ d a, shape d = .ok a → WellFormed a ∧ shape.ofJson (toJson a) = .ok a
  /-- What is written tells what it was written for. -/
  injective : ∀ a b, WellFormed a → WellFormed b → toJson a = toJson b → a = b
  /-- So does what is digested for a key, up to the order of keys in objects. -/
  digested : ∀ operation a b,
    cacheMessage operation (toJson a) = cacheMessage operation (toJson b) → Alike a b

/-- Reading undoes writing if it does so for what is well-formed, which is all that is read. -/
lemma Json.RoundTrip.of_back {α : Type} {shape : Shape α} {toJson : α → Json}
    {WellFormed : α → Prop} {Alike : α → α → Prop}
    (hback : ∀ a, WellFormed a → shape.ofJson (toJson a) = .ok a)
    (hread : ∀ d a, shape d = .ok a → WellFormed a)
    (hcanonical : ∀ a b, (toJson a).canonical = (toJson b).canonical → Alike a b) :
    RoundTrip shape toJson WellFormed Alike := by
  constructor
  case back => exact hback
  case again => exact fun d a h => ⟨hread d a h, hback a (hread d a h)⟩
  case injective =>
    intro a b ha hb h
    have hboth := hback a ha
    rw [h, hback b hb] at hboth
    exact (Except.ok.inj hboth).symm
  case digested => exact fun operation a b h => hcanonical a b (canonical_eq_of_cacheMessage h)

/-- **Requests are not changed by being written and read again.** Every request is read back from
what it is written as, and so is every request that was read in the first place, from an object or
a list and with fields left out or not. What is written tells the request, and what is digested for
the key of its answer tells it up to the order of keys.

**Proof sketch.** Each field is written in a form that its own reader takes back, and the readers of
a record's fields work one by one on members with different keys (`ofJson_toJson`). Whatever is read
has numbers that fit and objects that hold every key once (`wellFormed_of_shape`). So reading undoes
writing, and writing is injective. A canonical text tells the value up to the order of keys
(`alike_of_canonical`). -/
theorem requests_roundTrip :
    RoundTrip QueryRequest.shape QueryRequest.toJson QueryRequest.WellFormed QueryRequest.Alike ∧
    RoundTrip ComparisonRequest.shape ComparisonRequest.toJson ComparisonRequest.WellFormed
      ComparisonRequest.Alike := by
  constructor
  · exact .of_back (fun _ => QueryRequest.ofJson_toJson)
      (fun _ _ => QueryRequest.wellFormed_of_shape) fun _ _ => QueryRequest.alike_of_canonical
  · exact .of_back (fun _ => ComparisonRequest.ofJson_toJson)
      (fun _ _ => ComparisonRequest.wellFormed_of_shape)
      fun _ _ => ComparisonRequest.alike_of_canonical

/-- A request written as a list that ends early, and one with its direction written as a key. -/
theorem requests_roundTrip_short :
    let query : QueryRequest :=
      { fileId := "co2-country-year", select := ["year"], filters := [("year", .int 2020)],
        orderBy := .one "-year" }
    let items : Json := .arr [.str "co2-country-year", .strings ["year"],
      .obj [("year", .int 2020)], .arr [], .str "-year"]
    let comparison : ComparisonRequest :=
      { fileId := "co2-country-year", keyColumn := "country", valueColumn := "tonnes",
        baseYear := 2020, compareYear := 2021, direction := .rise }
    let members : Json := .obj [("file_id", .str "co2-country-year"), ("base_year", .int 2020),
      ("key_col", .str "country"), ("value_col", .str "tonnes"), ("compare_year", .int 2021),
      ("direction", .obj [("rise", .null)])]
    (QueryRequest.ofJson items = .ok query ∧ QueryRequest.ofJson query.toJson = .ok query) ∧
    ComparisonRequest.ofJson members = .ok comparison ∧
      ComparisonRequest.ofJson comparison.toJson = .ok comparison := by
  intro query items comparison members
  have hitems : QueryRequest.ofJson items = .ok query := rfl
  have hmembers : ComparisonRequest.ofJson members = .ok comparison := rfl
  exact ⟨⟨hitems, (requests_roundTrip.1.again (.ofJson items) query hitems).2⟩,
    hmembers, (requests_roundTrip.2.again (.ofJson members) comparison hmembers).2⟩

end QueryGate
