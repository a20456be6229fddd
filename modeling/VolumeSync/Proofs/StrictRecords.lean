import Mathlib.Data.List.Forall2
import Mathlib.Data.List.Perm.Basic
import VolumeSync.Json
import VolumeSync.Proofs.JsonGrammar
import VolumeSync.Proofs.JsonRecords

-- Records by their fields. A field says under which name a part of the record
-- stands, which values are written for it, and whether it may be absent. What an
-- object holds under that name settles the part, and nothing else in the object
-- does.

namespace VolumeSync.Json

/-! ## What stands under a name -/

section Values

variable {β : Type} (Is : Json → β → Prop)

/-- The values are one value, and it is of the type. -/
inductive Once : List Json → β → Prop where
  | value {v : Json} {b : β} (h : Is v b) : Once [v] b

/-- The values are one value at most, and it is null or of the type. -/
inductive OrNull : List Json → Option β → Prop where
  | absent : OrNull [] none
  | null : OrNull [.null] none
  | value {v : Json} {b : β} (h : Is v b) : OrNull [v] (some b)

variable {Is} {values : List Json}

theorem Once.exists_toList {b : β} (h : Once Is values b) :
    ∃ slot : Option Json, values = slot.toList := by
  cases h with
  | value => exact ⟨some _, rfl⟩

theorem OrNull.exists_toList {b : Option β} (h : OrNull Is values b) :
    ∃ slot : Option Json, values = slot.toList := by
  cases h with
  | absent => exact ⟨none, rfl⟩
  | null => exact ⟨some _, rfl⟩
  | value => exact ⟨some _, rfl⟩

theorem Once.headD {b : β} (h : Once Is values b) : Once Is [values.headD .null] b := by
  cases h with
  | value h => exact .value h

/-- Null in place of nothing gives the same. -/
theorem OrNull.headD {b : Option β} (h : OrNull Is values b) :
    OrNull Is [values.headD .null] b := by
  cases h with
  | absent => exact .null
  | null => exact .null
  | value h => exact .value h

variable {read : Json → Option β} (hread : ∀ v b, read v = some b ↔ Is v b) {slot : Option Json}

include hread

theorem required?_eq_some_iff {b : β} :
    required? read slot = some b ↔ Once Is slot.toList b := by
  rcases slot with _ | v
  · constructor
    · rintro ⟨⟩
    · rintro ⟨⟩
  · refine (hread v b).trans ⟨fun h => .value h, ?_⟩
    rintro ⟨h⟩
    exact h

/-- Null must not be a value of its own. -/
theorem optional?_eq_some_iff (hnull : ∀ b, ¬ Is .null b) {b : Option β} :
    optional? read slot = some b ↔ OrNull Is slot.toList b := by
  rcases slot with _ | v
  · constructor
    · intro h
      obtain rfl := Option.some.inj h
      exact .absent
    · rintro ⟨⟩
      rfl
  · by_cases hv : v = .null
    · subst hv
      constructor
      · intro h
        obtain rfl := Option.some.inj h
        exact .null
      · intro h
        cases h with
        | null => rfl
        | value h => exact absurd h (hnull _)
    · have hslot : optional? read (some v) = (read v).map some := nullable?.eq_2 read v hv
      rw [hslot, Option.map_eq_some_iff]
      constructor
      · rintro ⟨b, hb, rfl⟩
        exact .value ((hread v b).mp hb)
      · intro h
        cases h with
        | null => exact absurd rfl hv
        | value h => exact ⟨_, (hread v _).mpr h, rfl⟩

end Values

/-! ## Fields -/

/-- A field of a record: its name, the part of the record that it gives, and
which values are written for that part. -/
inductive Field (α : Type) : Type 1 where
  | required {β : Type} (name : String) (get : α → β) (Is : Json → β → Prop)
  | optional {β : Type} (name : String) (get : α → Option β) (Is : Json → β → Prop)

namespace Field

variable {α : Type}

def name : Field α → String
  | .required name _ _ => name
  | .optional name _ _ => name

/-- The values may stand under the field. -/
def Fits : Field α → List Json → Prop
  | .required _ _ Is, values => ∃ b, Once Is values b
  | .optional _ _ Is, values => ∃ b, OrNull Is values b

/-- The values that stand under the field give this part of the record. -/
def Holds (a : α) : Field α → List Json → Prop
  | .required _ get Is, values => Once Is values (get a)
  | .optional _ get Is, values => OrNull Is values (get a)

variable {a : α} {f : Field α} {values : List Json}

theorem Holds.fits (h : f.Holds a values) : f.Fits values := by
  cases f with
  | required => exact ⟨_, h⟩
  | optional => exact ⟨_, h⟩

theorem Holds.exists_toList (h : f.Holds a values) :
    ∃ slot : Option Json, values = slot.toList := by
  cases f with
  | required => exact Once.exists_toList h
  | optional => exact OrNull.exists_toList h

theorem Holds.headD (h : f.Holds a values) : f.Holds a [values.headD .null] := by
  cases f with
  | required => exact Once.headD h
  | optional => exact OrNull.headD h

end Field

/-! ## Objects and lists -/

/-- The values under the name, in the order of the members. -/
def occurrences (name : String) (members : List (String × Json)) : List Json :=
  (members.filter fun m => m.1 == name).map (·.2)

section Records

variable {α : Type} (fields : List (Field α))

/-- The object holds what the fields of the record say, and anything beside it. -/
def IsObject (members : List (String × Json)) (a : α) : Prop :=
  ∀ f ∈ fields, f.Holds a (occurrences f.name members)

/-- The list holds one item for each field, in their order. -/
def IsListing (items : List Json) (a : α) : Prop :=
  List.Forall₂ (fun f item => f.Holds a [item]) fields items

/-- The value is the record, as an object or as a list. -/
inductive IsRecord : Json → α → Prop where
  | object {members : List (String × Json)} {a : α} (h : IsObject fields members a) :
      IsRecord (record members) a
  | list {items : List Json} {a : α} (h : IsListing fields items a) : IsRecord (.list items) a

/-- The members under the names of fields, in their order. -/
def known (members : List (String × Json)) : List (String × Json) :=
  members.filter fun m => m.1 ∈ fields.map (·.name)

variable {fields} {members others : List (String × Json)} {items : List Json} {a : α}

theorem valuesOf_record_members (name : String) (members : List (String × Json)) :
    valuesOf name (members.map fun m => (some m.1, m.2)) = occurrences name members := by
  simp [valuesOf, occurrences, List.filter_map, Function.comp_def]

theorem member?_eq_some_iff {name : String} {slot : Option Json} :
    member? (members.map fun m => (some m.1, m.2)) name = some slot ↔
      occurrences name members = slot.toList := by
  rw [member?, valuesOf_record_members]
  rcases occurrences name members with _ | ⟨v, _ | ⟨w, rest⟩⟩
  · cases slot <;> simp
  · cases slot <;> simp
  · cases slot <;> simp

theorem occurrences_known {f : Field α} (h : f ∈ fields) (members : List (String × Json)) :
    occurrences f.name (known fields members) = occurrences f.name members := by
  rw [occurrences, known, List.filter_filter]
  refine congrArg _ (List.filter_congr fun m _ => ?_)
  by_cases hm : m.1 = f.name
  · simp [hm, List.mem_map_of_mem h]
  · simp [hm]

theorem isObject_of_perm (h : (known fields members).Perm (known fields others))
    (ha : IsObject fields members a) : IsObject fields others a := by
  intro f hf
  have hperm : (occurrences f.name members).Perm (occurrences f.name others) := by
    rw [← occurrences_known hf members, ← occurrences_known hf others]
    exact (h.filter _).map _
  -- One value at most stands under the field, and it has no other order.
  obtain ⟨slot, hslot⟩ := (ha f hf).exists_toList
  have hsame : occurrences f.name members = occurrences f.name others := by
    rw [hslot] at hperm ⊢
    rcases slot with _ | v
    · exact (List.nil_perm.mp hperm).symm
    · exact (List.singleton_perm.mp hperm)
  exact hsame ▸ ha f hf

theorem isListing_of_isObject (h : IsObject fields members a) :
    IsListing fields (fields.map fun f => (occurrences f.name members).headD .null) a := by
  rw [IsListing, List.forall₂_map_right_iff, List.forall₂_same]
  exact fun f hf => (h f hf).headD

/-! ## Reading a record -/

theorem fields?_record_eq_some_iff {slots : List (Option Json)} :
    (record members).fields? (fields.map (·.name)) = some slots ↔
      List.Forall₂ (fun f slot => occurrences f.name members = slot.toList) fields slots := by
  have hkeys :
      (members.map fun m => ((some m.1 : Literal), m.2)).all (fun m => m.1.isSome) = true := by
    simp
  rw [record, fields?, if_pos hkeys, mapM_eq_some_iff, List.forall₂_map_left_iff]
  simp only [member?_eq_some_iff]

theorem exists_slots_object :
    (∃ slots, (record members).fields? (fields.map (·.name)) = some slots ∧
      List.Forall₂ (fun f slot => f.Holds a slot.toList) fields slots) ↔
      IsObject fields members a := by
  simp only [fields?_record_eq_some_iff]
  constructor
  · rintro ⟨slots, hslots, hholds⟩
    unfold IsObject
    induction hslots with
    | nil => exact List.forall_mem_nil _
    | cons hslot _ ih =>
      obtain ⟨hhold, hholds⟩ := List.forall₂_cons.mp hholds
      exact List.forall_mem_cons.mpr ⟨hslot ▸ hhold, ih hholds⟩
  · intro h
    have hslot : ∀ f ∈ fields,
        (occurrences f.name members).head?.toList = occurrences f.name members := by
      intro f hf
      obtain ⟨slot, hslot⟩ := (h f hf).exists_toList
      rw [hslot]
      cases slot <;> rfl
    -- Each slot is the value under its field, if there is one.
    refine ⟨fields.map fun f => (occurrences f.name members).head?, ?_, ?_⟩
    · rw [List.forall₂_map_right_iff, List.forall₂_same]
      exact fun f hf => (hslot f hf).symm
    · rw [List.forall₂_map_right_iff, List.forall₂_same]
      exact fun f hf => (hslot f hf).symm ▸ h f hf

theorem exists_slots_list :
    (∃ slots, (Json.list items).fields? (fields.map (·.name)) = some slots ∧
      List.Forall₂ (fun f slot => f.Holds a slot.toList) fields slots) ↔
      IsListing fields items a := by
  have hmap : List.Forall₂ (fun f slot => f.Holds a slot.toList) fields (items.map some) ↔
      IsListing fields items a := List.forall₂_map_right_iff
  rw [← hmap, fields?, List.length_map]
  constructor
  · rintro ⟨slots, hslots, hholds⟩
    split at hslots
    · obtain rfl := Option.some.inj hslots
      exact hholds
    · cases hslots
  · intro h
    have hlength : items.length = fields.length := by
      rw [h.length_eq, List.length_map]
    exact ⟨_, if_pos hlength, h⟩

/-- An object whose keys are all texts has members under names. -/
theorem exists_members {members : List (Literal × Json)}
    (h : members.all (fun m => m.1.isSome) = true) :
    ∃ named : List (String × Json), Json.object members = record named := by
  induction members with
  | nil => exact ⟨[], rfl⟩
  | cons member members ih =>
    obtain ⟨key, value⟩ := member
    rw [List.all_cons, Bool.and_eq_true] at h
    obtain ⟨named, hnamed⟩ := ih h.2
    obtain ⟨name, rfl⟩ := Option.isSome_iff_exists.mp h.1
    rw [record, object.injEq] at hnamed
    exact ⟨(name, value) :: named, by rw [hnamed, record, List.map_cons]⟩

/-- The slots that a value gives for the fields hold a record exactly if the
value is the record. -/
theorem exists_slots_iff {value : Json} :
    (∃ slots, value.fields? (fields.map (·.name)) = some slots ∧
      List.Forall₂ (fun f slot => f.Holds a slot.toList) fields slots) ↔
      IsRecord fields value a := by
  constructor
  · rintro ⟨slots, hslots, hholds⟩
    cases value with
    | object literals =>
      have hkeys : literals.all (fun m => m.1.isSome) = true := by
        by_contra hkeys
        rw [fields?, if_neg hkeys] at hslots
        cases hslots
      obtain ⟨members, hmembers⟩ := exists_members hkeys
      rw [hmembers] at hslots ⊢
      exact .object (exists_slots_object.mp ⟨slots, hslots, hholds⟩)
    | list items => exact .list (exists_slots_list.mp ⟨slots, hslots, hholds⟩)
    | _ => cases hslots
  · intro h
    cases h with
    | object h => exact exists_slots_object.mpr h
    | list h => exact exists_slots_list.mpr h

theorem isRecord_object_iff : IsRecord fields (record members) a ↔ IsObject fields members a :=
  exists_slots_iff.symm.trans exists_slots_object

theorem isRecord_list_iff : IsRecord fields (.list items) a ↔ IsListing fields items a :=
  exists_slots_iff.symm.trans exists_slots_list

end Records

/-! ## Texts of records -/

/-- The reader takes the texts of the fields and no others. -/
structure ReadsStrictly {α : Type} (fields : List (Field α)) (ofText? : String → Option α) :
    Prop where
  /-- An object is taken exactly if every field fits what stands under its name. -/
  takes_object : ∀ {text : String} {members : List (String × Json)},
    Writes text.toList (record members) →
      ((ofText? text).isSome ↔ ∀ f ∈ fields, f.Fits (occurrences f.name members))
  /-- What is read of an object is what the fields hold. -/
  reads_object : ∀ {text : String} {members : List (String × Json)} {a : α},
    Writes text.toList (record members) → (ofText? text = some a ↔ IsObject fields members a)
  /-- The order of the members, and the members under other names, do not count. -/
  same_known : ∀ {text other : String} {members others : List (String × Json)},
    Writes text.toList (record members) → Writes other.toList (record others) →
      (known fields members).Perm (known fields others) → ofText? text = ofText? other
  /-- What is read of a list is what its items hold for the fields in their order. -/
  reads_list : ∀ {text : String} {items : List Json} {a : α},
    Writes text.toList (.list items) → (ofText? text = some a ↔ IsListing fields items a)
  /-- The values of an object that is taken make a list that reads the same, with
  null for what is absent. -/
  same_listed : ∀ {text other : String} {members : List (String × Json)},
    Writes text.toList (record members) → (ofText? text).isSome →
      Writes other.toList
        (.list (fields.map fun f => (occurrences f.name members).headD .null)) →
      ofText? other = ofText? text
  /-- A list of any other length is refused. -/
  refuses_length : ∀ {text : String} {items : List Json}, Writes text.toList (.list items) →
    items.length ≠ fields.length → ofText? text = none

/-- A reader of records is strict if every choice of what stands under the fields
that fits them makes a record. -/
theorem readsStrictly {α : Type} {fields : List (Field α)} {ofJson? : Json → Option α}
    (hread : ∀ value a, ofJson? value = some a ↔ IsRecord fields value a)
    (hfits : ∀ values : String → List Json, (∀ f ∈ fields, f.Fits (values f.name)) →
      ∃ a, ∀ f ∈ fields, f.Holds a (values f.name)) :
    ReadsStrictly fields fun text => (parse? text).bind ofJson? := by
  have hobject : ∀ {text : String} {members : List (String × Json)} {a : α},
      Writes text.toList (record members) →
        ((parse? text).bind ofJson? = some a ↔ IsObject fields members a) := by
    intro text members a h
    rw [parse?_of_writes h, Option.bind_some, hread, isRecord_object_iff]
  have hlist : ∀ {text : String} {items : List Json} {a : α},
      Writes text.toList (.list items) →
        ((parse? text).bind ofJson? = some a ↔ IsListing fields items a) := by
    intro text items a h
    rw [parse?_of_writes h, Option.bind_some, hread, isRecord_list_iff]
  refine ⟨fun {text members} h => ?_, hobject, fun {text other members others} h ho hperm => ?_,
    hlist, fun {text other members} h hsome ho => ?_, fun {text items} h hlength => ?_⟩
  · rw [Option.isSome_iff_exists]
    constructor
    · rintro ⟨a, ha⟩
      exact fun f hf => ((hobject h).mp ha f hf).fits
    · intro hall
      obtain ⟨a, ha⟩ := hfits (occurrences · members) hall
      exact ⟨a, (hobject h).mpr ha⟩
  · refine Option.ext fun a => ?_
    rw [hobject h, hobject ho]
    exact ⟨isObject_of_perm hperm, isObject_of_perm hperm.symm⟩
  · obtain ⟨a, ha⟩ := Option.isSome_iff_exists.mp hsome
    rw [ha, hlist ho]
    exact isListing_of_isObject ((hobject h).mp ha)
  · refine Option.eq_none_iff_forall_ne_some.mpr fun a ha => hlength ?_
    exact ((hlist h).mp ha).length_eq.symm

end VolumeSync.Json
