import QueryGate.Json.Shape
import QueryGate.Proofs.Json.Reordering
import QueryGate.Proofs.Outcome

set_option relaxedAutoImplicit false
set_option autoImplicit false

/-!
# Values of a shape

What a reader of drafts makes of a value that was written for it, and what is true of everything it
makes of whatever it meets. A record that is written with all its fields is read back field by
field, and what every field keeps true is true of every record that is read, whether it is written
as an object or as a list and whichever fields are left out.

## Main definitions

* `QueryGate.Json.Shape.Yields` — what is true of everything that is read.
* `QueryGate.Json.RecordField.Keeps` — what stays true of a record when a field is taken.
* `QueryGate.Json.Fills` — values that fill the fields of a record one by one.

## Main results

* `QueryGate.Json.merged_of_distinct` — a value that holds every key once is its own merged form.
* `QueryGate.Json.Shape.any_ofJson` — such a value is read back as it is.
* `QueryGate.Json.Fills.record` — a record written with all its fields is read back.
* `QueryGate.Json.Shape.yields_record` — what the fields keep true is true of a record.
-/

namespace QueryGate.Json

open Outcome

/-! ## Values as they are -/

namespace Draft

mutual

/-- Nothing is wrong in the draft of a value. -/
lemma toJson?_ofJson : ∀ j : Json, (ofJson j).toJson? = some j
  | .null | .bool _ | .int _ | .float _ | .str _ => rfl
  | .arr items => by simp [ofJson, toJson?, itemsJson?_ofItems items]
  | .obj members => by simp [ofJson, toJson?, membersJson?_ofMembers members]

/-- Nor in the drafts of items. -/
lemma itemsJson?_ofItems (items : List Json) : itemsJson? (ofItems items) = some items := by
  cases items with
  | nil => rfl
  | cons j rest => simp [ofItems, itemsJson?, toJson?_ofJson j, itemsJson?_ofItems rest]

/-- Nor in those of members. -/
lemma membersJson?_ofMembers (members : List (String × Json)) :
    membersJson? (ofMembers members) = some members := by
  cases members with
  | nil => rfl
  | cons m rest => simp [ofMembers, membersJson?, toJson?_ofJson m.2, membersJson?_ofMembers rest]

end

/-- The items of a list are drafts one by one. -/
lemma ofItems_eq_map (items : List Json) : ofItems items = items.map ofJson := by
  induction items with
  | nil => rfl
  | cons j rest ih => rw [ofItems, ih, List.map_cons]

end Draft

mutual

/-- A value that holds every key once is its own merged form. -/
lemma merged_of_distinct : ∀ {j : Json}, Distinct j → j.merged = j
  | .null, _ | .bool _, _ | .int _, _ | .float _, _ | .str _, _ => rfl
  | .arr items, h => by rw [merged, mergedItems_of_distinct h.items]
  | .obj members, h => by
    rw [merged, mergedMembers_of_distinct h.members.2, ofList_eq_self h.members.1]

/-- So are the items of a list. -/
lemma mergedItems_of_distinct : ∀ {items : List Json}, (∀ j ∈ items, Distinct j) →
    mergedItems items = items
  | [], _ => rfl
  | j :: rest, h => by
    rw [List.forall_mem_cons] at h
    rw [mergedItems, merged_of_distinct h.1, mergedItems_of_distinct h.2]

/-- So are the values of members. -/
lemma mergedMembers_of_distinct : ∀ {members : List (String × Json)},
    (∀ m ∈ members, Distinct m.2) → mergedMembers members = members
  | [], _ => rfl
  | (k, v) :: rest, h => by
    rw [List.forall_mem_cons] at h
    rw [mergedMembers, merged_of_distinct h.1, mergedMembers_of_distinct h.2]

end

/-! ## Reading values back -/

namespace Shape

/-- A value that holds every key once is read back as it is. -/
lemma any_ofJson {j : Json} (h : Distinct j) : any.ofJson j = .ok j := by
  rw [Shape.ofJson, any, Draft.toJson?_ofJson]
  exact congrArg Except.ok (merged_of_distinct h)

/-- An object that does so is read back as its members. -/
lemma object_ofJson {members : List (String × Json)} (h : Distinct (.obj members)) :
    object.ofJson (.obj members) = .ok members := by
  have hany : any (.obj (Draft.ofMembers members) true) = .ok (.obj members) := any_ofJson h
  rw [Shape.ofJson, Draft.ofJson, object, hany]
  rfl

/-- Texts are read back. -/
lemma list_string_ofJson (texts : List String) :
    (list string).ofJson (.strings texts) = .ok texts := by
  have hitems : ((texts.map Json.str).map Draft.ofJson).mapM string = .ok texts := by
    rw [mapM_eq_ok_iff, List.forall₂_map_left_iff, List.forall₂_map_left_iff]
    exact List.forall₂_same.mpr fun _ _ => rfl
  rw [Shape.ofJson, strings, Draft.ofJson, list, Draft.ofItems_eq_map, hitems]
  rfl

/-- A natural number that fits, or none, is read back. -/
lemma nullable_natural_ofJson {n : Option ℕ} (h : ∀ k ∈ n, k ≤ Word.maxUnsigned) :
    (nullable natural).ofJson (.ofNat? n) = .ok n := by
  cases n with
  | none => rfl
  | some k =>
    have hk : (k : Int) ≤ (Word.maxUnsigned : Int) := Int.ofNat_le.mpr (h k rfl)
    have hread : integer 0 Word.maxUnsigned "u64" (.int k) = .ok (k : Int) :=
      if_pos ⟨Int.natCast_nonneg k, hk⟩
    simp only [Shape.ofJson, ofNat?, Draft.ofJson, nullable, natural, hread]
    rfl

/-- An integer that fits is read back. -/
lemma signed_ofJson {n : Int} (h : Word.minSigned ≤ n ∧ n ≤ Word.maxSigned) :
    signed.ofJson (.int n) = .ok n := if_pos h

/-! ## What is read -/

variable {α β : Type}

/-- Everything that is read is as `P` says. -/
def Yields (shape : Shape α) (P : α → Prop) : Prop := ∀ d a, shape d = .ok a → P a

/-- Nothing is asked of what is read. -/
lemma yields_true (shape : Shape α) : Yields shape fun _ => True := fun _ _ _ => trivial

/-- Integers are read between their bounds. -/
lemma yields_integer (lo hi : Int) (wanted : String) :
    Yields (integer lo hi wanted) fun n => lo ≤ n ∧ n ≤ hi := by
  intro d n h
  unfold integer at h
  split at h
  · split_ifs at h with hrange
    exact Except.ok.inj h ▸ hrange
  · exact absurd h nofun

/-- Natural numbers are read up to the largest. -/
lemma yields_natural : Yields natural fun n => n ≤ Word.maxUnsigned := by
  intro d n h
  obtain ⟨k, hk, rfl⟩ := map_eq_ok_iff.mp h
  exact Int.toNat_le.mpr (yields_integer _ _ _ d k hk).2

/-- What is read or null is as what is read. -/
lemma Yields.nullable {shape : Shape α} {P : α → Prop} (h : Yields shape P) :
    Yields (nullable shape) fun a => ∀ b ∈ a, P b := by
  intro d a ha
  unfold Shape.nullable at ha
  split at ha
  · rw [← Except.ok.inj ha]
    exact nofun
  · obtain ⟨b, hb, rfl⟩ := map_eq_ok_iff.mp ha
    exact fun b' hb' => Option.some.inj hb' ▸ h d b hb

/-- Objects are read with every key once. -/
lemma yields_object : Yields object fun members => Distinct (.obj members) := by
  intro d members h
  unfold object at h
  split at h
  · next found closed =>
    obtain ⟨j, hj, h⟩ := bind_eq_ok_iff.mp h
    have hdistinct : Distinct j := by
      unfold any at hj
      split at hj
      · exact Except.ok.inj hj ▸ distinct_merged _
      · exact absurd hj nofun
    split at h
    · exact Except.ok.inj h ▸ hdistinct
    · exact Except.ok.inj h ▸ .obj List.nodup_nil fun m hm => absurd hm List.not_mem_nil
  · exact absurd h nofun

end Shape

/-! ## Records -/

/-- What is true of a record stays true when a field takes a value. -/
def RecordField.Keeps {α : Type} (field : RecordField α) (P : α → Prop) : Prop :=
  ∀ d a b, P a → field.take d a = .ok b → P b

/-- Values that fill the fields of a record one by one, from a record to another. -/
inductive Fills {α : Type} : List (RecordField α) → List Json → α → α → Prop
  | nil (a : α) : Fills [] [] a a
  | cons {field : RecordField α} {fields : List (RecordField α)} {j : Json} {js : List Json}
    {a b c : α} (htake : field.take (.ofJson j) a = .ok b) (hrest : Fills fields js b c) :
    Fills (field :: fields) (j :: js) a c

variable {α β : Type}

namespace Shape

/-- A field that has to be there keeps what the values read for it keep. -/
lemma Yields.keeps_required {shape : Shape β} {Q : β → Prop} {P : α → Prop} {set : β → α → α}
    (h : Yields shape Q) (hset : ∀ v a, Q v → P a → P (set v a)) (name : String) :
    (required name shape set).Keeps P := by
  intro d a b ha htake
  obtain ⟨v, hv, rfl⟩ := map_eq_ok_iff.mp htake
  exact hset v a (h d v hv) ha

/-- So does a field with a default. -/
lemma Yields.keeps_withDefault {shape : Shape β} {Q : β → Prop} {P : α → Prop} {set : β → α → α}
    (h : Yields shape Q) (hset : ∀ v a, Q v → P a → P (set v a)) (name : String) :
    (withDefault name shape set).Keeps P := h.keeps_required hset name

variable {P : α → Prop} {fields : List (RecordField α)}

/-- What every field keeps is kept by members taken for fields. -/
lemma keeps_takeMembers (h : ∀ field ∈ fields, field.Keeps P)
    {members : List (Option String × Draft)} {seen : List String} {a : α}
    {found : List String × α} (ha : P a)
    (hfound : takeMembers fields seen members a = .ok found) : P found.2 := by
  induction members generalizing seen a with
  | nil => exact Except.ok.inj hfound ▸ ha
  | cons m rest ih =>
    obtain ⟨_ | key, d⟩ := m
    case none => exact absurd hfound nofun
    case some =>
      rw [takeMembers] at hfound
      split at hfound
      · split_ifs at hfound
        exact ih ha hfound
      · next field hfield =>
        split_ifs at hfound
        split at hfound
        · next b hb => exact ih (h field (List.mem_of_find?_eq_some hfield) _ _ _ ha hb) hfound
        · exact absurd hfound nofun

/-- So is it by items taken for fields in order. -/
lemma keeps_takeItems (record : String) (total : ℕ) (closed : Bool) :
    ∀ {fields : List (RecordField α)} {i : ℕ} {items : List Draft} {a b : α},
      (∀ field ∈ fields, field.Keeps P) → P a →
        takeItems record total closed i fields items a = .ok b → P b
  | [], i, [], a, b, _, ha, hb => by
    rw [takeItems, ifClosed] at hb
    split_ifs at hb
    exact Except.ok.inj hb ▸ ha
  | [], i, _ :: _, a, b, _, _, hb => absurd hb nofun
  | field :: fields, i, [], a, b, h, ha, hb => by
    rw [takeItems] at hb
    split_ifs at hb
    exact keeps_takeItems record total closed (List.forall_mem_cons.mp h).2 ha hb
  | field :: fields, i, d :: rest, a, b, h, ha, hb => by
    rw [List.forall_mem_cons] at h
    rw [takeItems] at hb
    split at hb
    · next c hc => exact keeps_takeItems record total closed h.2 (h.1 d a c ha hc) hb
    · exact absurd hb nofun

/-- **What every field keeps is true of a record that is read**, if it is of the defaults. -/
lemma yields_record (name : String) {blank : α} (hblank : P blank)
    (h : ∀ field ∈ fields, field.Keeps P) : Yields (record name blank fields) P := by
  intro d a ha
  unfold record at ha
  split at ha
  · obtain ⟨⟨seen, b⟩, hb, ha⟩ := bind_eq_ok_iff.mp ha
    obtain ⟨c, hc, ha⟩ := bind_eq_ok_iff.mp ha
    have hkept : P b := keeps_takeMembers h hblank hb
    unfold ifClosed at hc
    split_ifs at hc
    obtain rfl := Except.ok.inj hc
    split at ha
    · exact absurd ha nofun
    · exact Except.ok.inj ha ▸ hkept
  · exact keeps_takeItems _ _ _ h hblank ha
  · exact absurd ha nofun

/-- The name of a record matters only to what is said of a misfit. -/
lemma takeItems_eq_ok_iff (name name' : String) (total : ℕ) (closed : Bool) {b : α} :
    ∀ (fields : List (RecordField α)) (i : ℕ) (items : List Draft) (a : α),
      takeItems name total closed i fields items a = .ok b ↔
        takeItems name' total closed i fields items a = .ok b
  | [], _, [], _ => Iff.rfl
  | [], _, _ :: _, _ => by simp [takeItems]
  | field :: fields, i, [], a => by
    rw [takeItems, takeItems]
    split_ifs
    · exact Iff.rfl
    · exact takeItems_eq_ok_iff name name' total closed fields (i + 1) [] a
    · simp
  | field :: fields, i, d :: rest, a => by
    rw [takeItems, takeItems]
    split
    · next c _ => exact takeItems_eq_ok_iff name name' total closed fields (i + 1) rest c
    · exact Iff.rfl

/-- A record is read alike whatever its name. -/
lemma record_eq_ok_iff (name name' : String) {blank a : α} {d : Draft} :
    record name blank fields d = .ok a ↔ record name' blank fields d = .ok a := by
  unfold record
  split
  · exact Iff.rfl
  · exact takeItems_eq_ok_iff name name' _ _ fields 0 _ blank
  · simp

end Shape

namespace Fills

variable {fields : List (RecordField α)} {shape : Shape β} {set : β → α → α} {name : String}
  {j : Json} {js : List Json} {v : β} {a b : α}

/-- A value that is read for a field that has to be there fills it. -/
lemma required (h : shape.ofJson j = .ok v) (hrest : Fills fields js (set v a) b) :
    Fills (Shape.required name shape set :: fields) (j :: js) a b :=
  .cons (map_eq_ok_iff.mpr ⟨v, h, rfl⟩) hrest

/-- A value that is read for a field with a default fills it. -/
lemma withDefault (h : shape.ofJson j = .ok v) (hrest : Fills fields js (set v a) b) :
    Fills (Shape.withDefault name shape set :: fields) (j :: js) a b :=
  .cons (map_eq_ok_iff.mpr ⟨v, h, rfl⟩) hrest

/-- The members of a record that is written with all its fields. -/
def members (fields : List (RecordField α)) (js : List Json) : List (String × Json) :=
  List.zipWith (fun field j => (field.name, j)) fields js

/-- Among fields with names of their own each is found by its name. -/
lemma find?_name {all before after : List (RecordField α)} {field : RecordField α}
    (hall : all = before ++ field :: after) (hnodup : (all.map (·.name)).Nodup) :
    all.find? (·.name == field.name) = some field := by
  rw [List.find?_eq_some_iff_append]
  refine ⟨beq_self_eq_true _, before, after, hall, fun other hother => ?_⟩
  rw [hall, List.map_append, List.nodup_append'] at hnodup
  have hne : other.name ≠ field.name := fun heq =>
    hnodup.2.2 (List.mem_map_of_mem hother) (heq ▸ List.mem_cons_self)
  simpa using hne

/-- Values that fill the rest of the fields are taken for them. -/
lemma takeMembers {all fields : List (RecordField α)} {js : List Json} {a b : α}
    (h : Fills fields js a b) (hnodup : (all.map (·.name)).Nodup) :
    ∀ (before : List (RecordField α)) (seen : List String), all = before ++ fields →
      (∀ name, name ∈ seen ↔ name ∈ before.map (·.name)) →
      ∃ seen', (∀ field ∈ all, field.name ∈ seen') ∧
        Shape.takeMembers all seen (Draft.ofMembers (members fields js)) a = .ok (seen', b) := by
  induction h with
  | nil a =>
    intro before seen hall hseen
    rw [List.append_nil] at hall
    exact ⟨seen, fun field hfield => (hseen _).mpr (List.mem_map_of_mem (hall ▸ hfield)), rfl⟩
  | @cons field fields j js a b c htake _ ih =>
    intro before seen hall hseen
    have hnew : seen.contains field.name = false := by
      rw [List.contains_eq_mem, decide_eq_false_iff_not, hseen]
      rw [hall, List.map_append, List.nodup_append'] at hnodup
      exact fun hmem => hnodup.2.2 hmem List.mem_cons_self
    have hstep : Shape.takeMembers all seen (Draft.ofMembers (members (field :: fields) (j :: js)))
        a = Shape.takeMembers all (field.name :: seen) (Draft.ofMembers (members fields js)) b := by
      simp only [members, List.zipWith_cons_cons, Draft.ofMembers, Shape.takeMembers,
        find?_name hall hnodup, hnew, htake]
      rfl
    rw [hstep]
    refine ih (before ++ [field]) (field.name :: seen) (by simp [hall]) fun name => ?_
    simp [hseen, or_comm]

/-- **A record written with all its fields is read back.** -/
lemma record {fields : List (RecordField α)} {js : List Json} {blank a : α}
    (h : Fills fields js blank a) (hnodup : (fields.map (·.name)).Nodup) (name : String) :
    (Shape.record name blank fields).ofJson (.obj (members fields js)) = .ok a := by
  obtain ⟨seen, hseen, htaken⟩ := h.takeMembers hnodup [] [] rfl (by simp)
  have hnone : fields.find? (fun field => !field.optional && !seen.contains field.name) = none := by
    rw [List.find?_eq_none]
    intro field hfield
    simp [hseen field hfield]
  rw [Shape.ofJson, Draft.ofJson, Shape.record, htaken, ok_bind]
  dsimp only
  rw [Shape.ifClosed, if_pos rfl, ok_bind, hnone]

end Fills

end QueryGate.Json
