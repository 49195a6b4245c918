import QueryGate.Proofs.Json.Canonical
import QueryGate.Proofs.Json.Members

set_option relaxedAutoImplicit false
set_option autoImplicit false

/-!
# Values up to the order of keys

Two values that differ in the order of keys alone, at any depth, have one canonical text, and no
other two values have. That they differ in nothing else is said here without the text: level by
level, and with a choice of what makes two numbers equal.

## Main definitions

* `QueryGate.Json.Reordered` — two values that are equal up to the order of keys.
* `QueryGate.Json.WrittenAlike` — two numbers that are printed alike.
* `QueryGate.Json.Distinct` — a value whose objects hold every key once.

## Main results

* `QueryGate.Json.canonical_eq_iff` — values with a JSON form have one canonical text exactly when
  they are equal up to the order of keys, with numbers compared as they are printed.
* `QueryGate.Json.distinct_merged` — a value that is read holds every key of an object once.
-/

namespace QueryGate.Json

/-! ## Two values -/

/-- Two values that are equal up to the order of keys at every depth. Two numbers count as equal if
`R` says so. -/
inductive Reordered (R : Json → Json → Prop) : Json → Json → Prop
  | null : Reordered R .null .null
  | bool (b : Bool) : Reordered R (.bool b) (.bool b)
  | number {a b : Json} (ha : a.isNumber = true) (hb : b.isNumber = true) (h : R a b) :
    Reordered R a b
  | str (s : String) : Reordered R (.str s) (.str s)
  | arr {xs ys : List Json} (h : List.Forall₂ (Reordered R) xs ys) : Reordered R (.arr xs) (.arr ys)
  | obj {ms ns ns' : List (String × Json)} (order : ns'.Perm ns)
    (keys : ms.map (·.1) = ns'.map (·.1))
    (values : List.Forall₂ (Reordered R) (ms.map (·.2)) (ns'.map (·.2))) :
    Reordered R (.obj ms) (.obj ns)

/-- Two values that are printed alike. -/
def WrittenAlike (a b : Json) : Prop := a.render = b.render

/-- A value whose objects, at every depth, hold every key once. -/
inductive Distinct : Json → Prop
  | bare {a : Json} (h : a.isBare = true) : Distinct a
  | str (s : String) : Distinct (.str s)
  | arr {items : List Json} (h : ∀ j ∈ items, Distinct j) : Distinct (.arr items)
  | obj {members : List (String × Json)} (keys : (members.map (·.1)).Nodup)
    (values : ∀ m ∈ members, Distinct m.2) : Distinct (.obj members)

/-- The items of a list hold every key once. -/
lemma Distinct.items {items : List Json} (h : Distinct (.arr items)) : ∀ j ∈ items, Distinct j := by
  cases h with
  | bare hbare => exact absurd hbare nofun
  | arr hitems => exact hitems

/-- An object holds every key once, and so do its values. -/
lemma Distinct.members {members : List (String × Json)} (h : Distinct (.obj members)) :
    (members.map (·.1)).Nodup ∧ ∀ m ∈ members, Distinct m.2 := by
  cases h with
  | bare hbare => exact absurd hbare nofun
  | obj keys values => exact ⟨keys, values⟩

/-! ## Plain values -/

/-- Truth values and the null value are written with a letter that is in no number. -/
lemma letter_mem_chars {a : Json} (hbare : a.isBare = true) (ha : a.isNumber = false) :
    ∃ c ∈ chars a, c.isDigit = false ∧ c ∉ ['.', 'e', '+', '-'] := by
  cases a with
  | null => exact ⟨'u', by decide⟩
  | bool b => cases b with
    | true => exact ⟨'u', by decide⟩
    | false => exact ⟨'l', by decide⟩
  | int n => exact absurd ha nofun
  | float x => exact absurd ha nofun
  | _ => exact absurd hbare nofun

/-- A plain value that is written like a number is one. -/
lemma Finite.isNumber_of_chars {a b : Json} (ha : Finite a) (hnumber : a.isNumber = true)
    (hb : b.isBare = true) (h : chars a = chars b) : b.isNumber = true := by
  by_contra hnot
  obtain ⟨c, hmem, hdigit, hmarks⟩ := letter_mem_chars hb (Bool.not_eq_true _ ▸ hnot)
  exact ha.not_mem_chars hnumber hdigit hmarks (h ▸ hmem)

/-- Plain values that are printed alike are equal, but for numbers. -/
lemma Reordered.of_bare {a b : Json} (ha : Finite a) (hb : Finite b) (hbare : a.isBare = true)
    (hbare' : b.isBare = true) (h : chars a = chars b) : Reordered WrittenAlike a b := by
  have hwritten : WrittenAlike a b := congrArg String.ofList h
  by_cases hnumber : a.isNumber = true
  · exact .number hnumber (ha.isNumber_of_chars hnumber hbare' h) hwritten
  · have hnumber' : b.isNumber ≠ true := fun hn => hnumber (hb.isNumber_of_chars hn hbare h.symm)
    cases a with
    | null => cases b with
      | null => exact .null
      | bool b => cases b <;> exact absurd h (by decide)
      | int n => exact absurd rfl hnumber'
      | float x => exact absurd rfl hnumber'
      | _ => exact absurd hbare' nofun
    | bool a => cases b with
      | null => cases a <;> exact absurd h (by decide)
      | bool b =>
        cases a <;> cases b
        case true.true => exact .bool true
        case false.false => exact .bool false
        all_goals exact absurd h (by decide)
      | int n => exact absurd rfl hnumber'
      | float x => exact absurd rfl hnumber'
      | _ => exact absurd hbare' nofun
    | int n => exact absurd rfl hnumber
    | float x => exact absurd rfl hnumber
    | _ => exact absurd hbare nofun

/-- Sorting changes no plain value. -/
lemma sorted_of_isBare : ∀ {a : Json}, a.isBare = true → a.sorted = a
  | .null, _ | .bool _, _ | .int _, _ | .float _, _ => rfl

/-- Numbers are plain values. -/
lemma isBare_of_isNumber : ∀ {a : Json}, a.isNumber = true → a.isBare = true
  | .int _, _ | .float _, _ => rfl

/-- Plain values that are alike are printed alike. -/
lemma Alike.chars_eq {a b : Json} (h : Alike a b) (hbare : a.isBare = true) :
    b.isBare = true ∧ chars a = chars b := by
  have hbare' := isBare_of_opening (h.opening_eq ▸ opening_of_isBare hbare)
  have hchars := chars_eq_of_twin h
  rw [sorted_of_isBare hbare, sorted_of_isBare hbare'] at hchars
  exact ⟨hbare', hchars⟩

/-! ## One canonical text -/

mutual

/-- Values with one canonical text are equal up to the order of keys. -/
lemma reordered_of_alike : ∀ (a : Json) {b : Json}, Finite a → Finite b → Alike a b →
    Reordered WrittenAlike a b
  | .null, _, ha, hb, h => .of_bare ha hb rfl (h.chars_eq rfl).1 (h.chars_eq rfl).2
  | .bool _, _, ha, hb, h => .of_bare ha hb rfl (h.chars_eq rfl).1 (h.chars_eq rfl).2
  | .int _, _, ha, hb, h => .of_bare ha hb rfl (h.chars_eq rfl).1 (h.chars_eq rfl).2
  | .float _, _, ha, hb, h => .of_bare ha hb rfl (h.chars_eq rfl).1 (h.chars_eq rfl).2
  | .str s, _, _, _, h => by
    rw [h.str]
    exact .str s
  | .arr xs, _, ha, hb, h => by
    obtain ⟨ys, rfl, hitems⟩ := h.arr
    exact .arr (reordered_items xs ha.items hb.items hitems)
  | .obj ms, _, ha, hb, h => by
    obtain ⟨ns, rfl, ns', hperm, hmembers⟩ := h.obj
    have hb' : ∀ n ∈ ns', Finite n.2 := fun n hn => hb.members n (hperm.subset hn)
    obtain ⟨hkeys, hvalues⟩ := reordered_members ms ha.members hb' hmembers
    exact .obj hperm hkeys hvalues

/-- So are lists of such values. -/
lemma reordered_items : ∀ (xs : List Json) {ys : List Json}, (∀ x ∈ xs, Finite x) →
    (∀ y ∈ ys, Finite y) → List.Forall₂ Alike xs ys → List.Forall₂ (Reordered WrittenAlike) xs ys
  | [], _, _, _, .nil => .nil
  | x :: xs, _ :: _, hxs, hys, .cons hfirst hrest => by
    rw [List.forall_mem_cons] at hxs hys
    exact .cons (reordered_of_alike x hxs.1 hys.1 hfirst) (reordered_items xs hxs.2 hys.2 hrest)

/-- So are the values of members. -/
lemma reordered_members : ∀ (ms : List (String × Json)) {ns : List (String × Json)},
    (∀ m ∈ ms, Finite m.2) → (∀ n ∈ ns, Finite n.2) → List.Forall₂ MemberAlike ms ns →
      ms.map (·.1) = ns.map (·.1) ∧
        List.Forall₂ (Reordered WrittenAlike) (ms.map (·.2)) (ns.map (·.2))
  | [], _, _, _, .nil => ⟨rfl, .nil⟩
  | (_, v) :: ms, _ :: _, hms, hns, .cons hfirst hrest => by
    rw [List.forall_mem_cons] at hms hns
    obtain ⟨hkeys, hvalues⟩ := reordered_members ms hms.2 hns.2 hrest
    exact ⟨List.cons_eq_cons.mpr ⟨hfirst.1, hkeys⟩,
      .cons (reordered_of_alike v hms.1 hns.1 hfirst.2) hvalues⟩

end

/-- Lists are alike whose items are. -/
lemma Alike.of_items {xs ys : List Json} (h : List.Forall₂ Alike xs ys) :
    Alike (.arr xs) (.arr ys) := by
  unfold Alike
  rw [sorted, sorted, sortedItems_eq_map, sortedItems_eq_map]
  refine .arr ?_
  rw [List.forall₂_map_left_iff, List.forall₂_map_right_iff]
  exact h

mutual

/-- Values that are equal up to the order of keys have one canonical text. -/
lemma alike_of_reordered : ∀ {a b : Json}, Distinct b → Reordered WrittenAlike a b → Alike a b
  | _, _, _, .null => .refl _
  | _, _, _, .bool _ => .refl _
  | _, _, _, .number ha hb h => by
    unfold Alike
    rw [sorted_of_isBare (isBare_of_isNumber ha), sorted_of_isBare (isBare_of_isNumber hb)]
    exact .bare (isBare_of_isNumber ha) (isBare_of_isNumber hb) (String.ofList_injective h)
  | _, _, _, .str _ => .refl _
  | .arr _, .arr _, hb, .arr h => .of_items (alike_items hb.items h)
  | .obj _, .obj _, hb, @Reordered.obj _ _ _ ns' order keys values => by
    refine (alike_obj_iff hb.members.1).mpr ⟨ns', order, ?_⟩
    exact alike_members (fun n hn => hb.members.2 n (order.subset hn)) keys values

/-- So have lists of such values. -/
lemma alike_items : ∀ {xs ys : List Json}, (∀ y ∈ ys, Distinct y) →
    List.Forall₂ (Reordered WrittenAlike) xs ys → List.Forall₂ Alike xs ys
  | [], [], _, _ => .nil
  | _ :: _, _ :: _, hys, .cons hfirst hrest => by
    rw [List.forall_mem_cons] at hys
    exact .cons (alike_of_reordered hys.1 hfirst) (alike_items hys.2 hrest)

/-- So have the values of members. -/
lemma alike_members : ∀ {ms ns : List (String × Json)}, (∀ n ∈ ns, Distinct n.2) →
    ms.map (·.1) = ns.map (·.1) →
      List.Forall₂ (Reordered WrittenAlike) (ms.map (·.2)) (ns.map (·.2)) →
        List.Forall₂ MemberAlike ms ns
  | [], [], _, _, _ => .nil
  | [], _ :: _, _, hkeys, _ => absurd hkeys nofun
  | (_, _) :: _, (_, _) :: _, hns, hkeys, .cons hfirst hrest => by
    rw [List.forall_mem_cons] at hns
    have hkey := List.cons_eq_cons.mp hkeys
    exact .cons ⟨hkey.1, alike_of_reordered hns.1 hfirst⟩ (alike_members hns.2 hkey.2 hrest)

end

/-- **Values have one canonical text exactly when they are equal up to the order of keys**, with
numbers compared as they are printed. -/
theorem canonical_eq_iff {a b : Json} (ha : Finite a) (hb : Finite b) (hdistinct : Distinct b) :
    a.canonical = b.canonical ↔ Reordered WrittenAlike a b :=
  ⟨fun h => reordered_of_alike a ha hb (alike_iff_canonical.mpr h),
    fun h => alike_iff_canonical.mp (alike_of_reordered hdistinct h)⟩

/-! ## Values that are read -/

/-- Members with repeated keys merged hold every key once, if their values do. -/
lemma distinct_ofList {members : Members} (h : ∀ m ∈ members, Distinct m.2) :
    Distinct (.obj (Members.ofList members)) := by
  have hfold : ∀ (ms done : Members), (∀ m ∈ ms, Distinct m.2) → Distinct (.obj done) →
      Distinct (.obj (ms.foldl (fun done m => Members.put m.1 m.2 done) done)) := by
    intro ms
    induction ms with
    | nil => exact fun _ _ hdone => hdone
    | cons m ms ih =>
      intro done hms hdone
      rw [List.forall_mem_cons] at hms
      refine ih _ hms.2 (.obj (nodup_keys_put hdone.members.1) fun n hn => ?_)
      rcases mem_put hn with hvalue | hn
      · exact hvalue ▸ hms.1
      · exact hdone.members.2 n hn
  exact hfold members [] h (.obj List.nodup_nil fun m hm => absurd hm List.not_mem_nil)

mutual

/-- **A value with repeated keys merged holds every key of an object once.** -/
theorem distinct_merged : ∀ a : Json, Distinct a.merged
  | .null => .bare rfl
  | .bool _ => .bare rfl
  | .int _ => .bare rfl
  | .float _ => .bare rfl
  | .str s => .str s
  | .arr items => by
    rw [merged]
    exact .arr (distinct_mergedItems items)
  | .obj members => by
    rw [merged]
    exact distinct_ofList (distinct_mergedMembers members)

/-- So does every item of a list. -/
theorem distinct_mergedItems : ∀ items : List Json, ∀ j ∈ mergedItems items, Distinct j
  | [], _, h => absurd h List.not_mem_nil
  | j :: rest, i, h => by
    rcases List.mem_cons.mp h with rfl | h
    · exact distinct_merged j
    · exact distinct_mergedItems rest i h

/-- So does every value of a member. -/
theorem distinct_mergedMembers :
    ∀ members : List (String × Json), ∀ m ∈ mergedMembers members, Distinct m.2
  | [], _, h => absurd h List.not_mem_nil
  | (k, v) :: rest, m, h => by
    rcases List.mem_cons.mp h with rfl | h
    · exact distinct_merged v
    · exact distinct_mergedMembers rest m h

end

end QueryGate.Json
