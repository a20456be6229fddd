import VolumeSync.Proofs.DescriptorText
import VolumeSync.Proofs.SnapshotText
import VolumeSync.Proofs.StrictRecords

-- Strict reading of snapshots and descriptors. Which fields they have, of what
-- type and in what order, is said once, and what their readers take and make of
-- it follows from that: every field once at most, the required ones once, and
-- whatever else the object holds is passed over.

namespace VolumeSync

/-! ## Types of values -/

namespace Json

def IsText (value : Json) (s : String) : Prop := value = ofText s

def IsWord (value : Json) (n : Int64) : Prop := value = ofWord n

def IsTexts (value : Json) (items : List String) : Prop := value = ofTexts items

/-- The value is an object of texts, and under a key that it holds more than once
the map has the last one. -/
def IsMap (value : Json) (m : Keyed String) : Prop :=
  ∃ entries : List (String × String), value = record (entries.map fun e => (e.1, ofText e.2)) ∧
    ∀ key, m.find? key = entries.reverse.lookup key

section Slots

variable {slot : Option Json}

theorem required?_text {s : String} :
    required? text? slot = some s ↔ Once IsText slot.toList s :=
  required?_eq_some_iff fun _ _ => text?_eq_some_iff

theorem optional?_text {s : Option String} :
    optional? text? slot = some s ↔ OrNull IsText slot.toList s :=
  optional?_eq_some_iff (fun _ _ => text?_eq_some_iff) fun _ => Json.noConfusion

theorem optional?_word {n : Option Int64} :
    optional? word? slot = some n ↔ OrNull IsWord slot.toList n :=
  optional?_eq_some_iff (fun _ _ => word?_eq_some_iff) fun _ => Json.noConfusion

theorem required?_texts {items : List String} :
    required? texts? slot = some items ↔ Once IsTexts slot.toList items :=
  required?_eq_some_iff fun _ _ => texts?_eq_some_iff

theorem map?_eq_some_iff_isMap (value : Json) (m : Keyed String) :
    value.map? = some m ↔ IsMap value m := by
  rw [map?_eq_some_iff, IsMap]
  refine exists_congr fun entries => and_congr_right' ⟨?_, fun h => ?_⟩
  · rintro rfl key
    exact Keyed.find?_ofList entries key
  · exact Keyed.ext_find? fun key => (Keyed.find?_ofList entries key).trans (h key).symm

theorem required?_map {m : Keyed String} :
    required? map? slot = some m ↔ Once IsMap slot.toList m :=
  required?_eq_some_iff map?_eq_some_iff_isMap

end Slots

end Json

/-! ## Phases -/

namespace Phase

/-- The value is the phase: the name of one that has a name, alone or with null
under it, or a text under `Other`. -/
inductive IsPhase : Json → Phase → Prop where
  | name {name : String} {p : Phase} (h : (name, p) ∈ named) : IsPhase (.ofText name) p
  | member {name : String} {p : Phase} (h : (name, p) ∈ named) : IsPhase (.record [(name, .null)]) p
  | other (text : String) : IsPhase (.record [(otherKey, .ofText text)]) (.other text)

theorem ofName?_eq_some_iff {name : String} {p : Phase} :
    ofName? name = some p ↔ (name, p) ∈ named := by
  refine ⟨mem_of_lookup, fun h => ?_⟩
  simp only [named, List.mem_cons, List.not_mem_nil, or_false, Prod.mk.injEq] at h
  rcases h with ⟨rfl, rfl⟩ | ⟨rfl, rfl⟩ | ⟨rfl, rfl⟩ | ⟨rfl, rfl⟩ | ⟨rfl, rfl⟩ <;> rfl

theorem ne_otherKey {name : String} {p : Phase} (h : (name, p) ∈ named) : name ≠ otherKey :=
  (by decide : ∀ e ∈ named, e.1 ≠ otherKey) (name, p) h

theorem ofJson?_eq_some_iff (value : Json) (p : Phase) :
    ofJson? value = some p ↔ IsPhase value p := by
  constructor
  · intro h
    unfold ofJson? at h
    split at h
    · exact .name (ofName?_eq_some_iff.mp h)
    · rename_i key value
      split at h
      · rename_i hkey
        obtain ⟨text, htext, rfl⟩ := Option.map_eq_some_iff.mp h
        rw [hkey, Json.text?_eq_some_iff.mp htext]
        exact .other text
      · split at h
        · rename_i phase hname
          obtain rfl := Option.some.inj h
          exact .member (ofName?_eq_some_iff.mp hname)
        · cases h
    · cases h
  · intro h
    cases h with
    | name h => exact ofName?_eq_some_iff.mpr h
    | member h =>
      simp [Json.record, ofJson?, ne_otherKey h, ofName?_eq_some_iff.mpr h]
    | other text => rfl

theorem required?_phase {slot : Option Json} {p : Phase} :
    Json.required? ofJson? slot = some p ↔ Json.Once IsPhase slot.toList p :=
  Json.required?_eq_some_iff ofJson?_eq_some_iff

end Phase

/-! ## Claims -/

namespace ClaimRef

def knownFields : List (Json.Field ClaimRef) :=
  [.required "namespace" namespaceName Json.IsText, .required "name" name Json.IsText]

theorem ofJson?_eq_some_iff (value : Json) (c : ClaimRef) :
    ofJson? value = some c ↔ Json.IsRecord knownFields value c := by
  -- The reader takes the slots of the fields one after another, as they are known.
  rw [← Json.exists_slots_iff]
  constructor
  · intro h
    obtain ⟨slots, hslots, h⟩ := Option.bind_eq_some_iff.mp h
    refine ⟨slots, hslots, ?_⟩
    split at h
    · simp only [Option.bind_eq_bind, Option.bind_eq_some_iff, Json.required?_text] at h
      obtain ⟨_, hnamespace, _, hname, h⟩ := h
      obtain rfl := Option.some.inj h
      exact .cons hnamespace (.cons hname .nil)
    · cases h
  · rintro ⟨slots, hslots, _ | ⟨hnamespace, _ | ⟨hname, _ | _⟩⟩⟩
    refine Option.bind_eq_some_iff.mpr ⟨_, hslots, ?_⟩
    simp [Json.required?_text.mpr hnamespace, Json.required?_text.mpr hname]

theorem optional?_claimRef {slot : Option Json} {c : Option ClaimRef} :
    Json.optional? ofJson? slot = some c ↔
      Json.OrNull (Json.IsRecord knownFields) slot.toList c := by
  refine Json.optional?_eq_some_iff ofJson?_eq_some_iff fun c h => ?_
  cases (ofJson?_eq_some_iff .null c).mpr h

end ClaimRef

/-! ## Snapshots -/

namespace Snapshot

def knownFields : List (Json.Field Snapshot) :=
  [.required "name" name Json.IsText,
    .optional "uid" uid Json.IsText,
    .optional "resource_version" resourceVersion Json.IsText,
    .required "phase" phase Phase.IsPhase,
    .optional "capacity_bytes" capacityBytes Json.IsWord,
    .required "attributes" attributes Json.IsMap,
    .required "reclaim_policy" reclaimPolicy Json.IsText,
    .required "storage_class" storageClass Json.IsText,
    .optional "claim_ref" claimRef (Json.IsRecord ClaimRef.knownFields),
    .optional "driver" driver Json.IsText,
    .required "volume_handle" volumeHandle Json.IsText]

theorem ofJson?_eq_some_iff (value : Json) (s : Snapshot) :
    ofJson? value = some s ↔ Json.IsRecord knownFields value s := by
  rw [← Json.exists_slots_iff]
  constructor
  · intro h
    obtain ⟨slots, hslots, h⟩ := Option.bind_eq_some_iff.mp h
    refine ⟨slots, hslots, ?_⟩
    split at h
    · simp only [Option.bind_eq_bind, Option.bind_eq_some_iff, Json.required?_text,
        Json.optional?_text, Json.optional?_word, Json.required?_map, Phase.required?_phase,
        ClaimRef.optional?_claimRef] at h
      obtain ⟨_, hname, _, huid, _, hversion, _, hphase, _, hbytes, _, hattributes, _, hpolicy, _,
        hclass, _, hclaim, _, hdriver, _, hhandle, h⟩ := h
      obtain rfl := Option.some.inj h
      exact .cons hname <| .cons huid <| .cons hversion <| .cons hphase <| .cons hbytes <|
        .cons hattributes <| .cons hpolicy <| .cons hclass <| .cons hclaim <| .cons hdriver <|
        .cons hhandle .nil
    · cases h
  · rintro ⟨slots, hslots, _ | ⟨hname, _ | ⟨huid, _ | ⟨hversion, _ | ⟨hphase, _ | ⟨hbytes,
      _ | ⟨hattributes, _ | ⟨hpolicy, _ | ⟨hclass, _ | ⟨hclaim, _ | ⟨hdriver,
      _ | ⟨hhandle, _ | _⟩⟩⟩⟩⟩⟩⟩⟩⟩⟩⟩⟩
    refine Option.bind_eq_some_iff.mpr ⟨_, hslots, ?_⟩
    simp [Json.required?_text.mpr hname, Json.optional?_text.mpr huid,
      Json.optional?_text.mpr hversion, Phase.required?_phase.mpr hphase,
      Json.optional?_word.mpr hbytes, Json.required?_map.mpr hattributes,
      Json.required?_text.mpr hpolicy, Json.required?_text.mpr hclass,
      ClaimRef.optional?_claimRef.mpr hclaim, Json.optional?_text.mpr hdriver,
      Json.required?_text.mpr hhandle]

/-- What fits the fields, whatever it is, makes a snapshot. -/
theorem exists_holds {values : String → List Json}
    (h : ∀ f ∈ knownFields, f.Fits (values f.name)) :
    ∃ s, ∀ f ∈ knownFields, f.Holds s (values f.name) := by
  simp only [knownFields, List.forall_mem_cons] at h ⊢
  obtain ⟨⟨name, hname⟩, ⟨uid, huid⟩, ⟨version, hversion⟩, ⟨phase, hphase⟩, ⟨bytes, hbytes⟩,
    ⟨attributes, hattributes⟩, ⟨policy, hpolicy⟩, ⟨storage, hstorage⟩, ⟨claim, hclaim⟩,
    ⟨driver, hdriver⟩, ⟨handle, hhandle⟩, -⟩ := h
  exact ⟨⟨name, uid, version, phase, bytes, attributes, policy, storage, claim, driver, handle⟩,
    hname, huid, hversion, hphase, hbytes, hattributes, hpolicy, hstorage, hclaim, hdriver, hhandle,
    List.forall_mem_nil _⟩

end Snapshot

/-! ## Descriptors -/

namespace Descriptor

def knownFields : List (Json.Field Descriptor) :=
  [.required "volume_id" volumeId Json.IsText,
    .required "provider" provider Json.IsText,
    .required "volume_type" volumeType Json.IsText,
    .required "crn" crn Json.IsText,
    .required "tags" tags Json.IsTexts,
    .optional "capacity" capacity Json.IsWord,
    .optional "iops" iops Json.IsText,
    .required "attributes" attributes Json.IsMap]

theorem ofJson?_eq_some_iff (value : Json) (d : Descriptor) :
    ofJson? value = some d ↔ Json.IsRecord knownFields value d := by
  rw [← Json.exists_slots_iff]
  constructor
  · intro h
    obtain ⟨slots, hslots, h⟩ := Option.bind_eq_some_iff.mp h
    refine ⟨slots, hslots, ?_⟩
    split at h
    · simp only [Option.bind_eq_bind, Option.bind_eq_some_iff, Json.required?_text,
        Json.optional?_text, Json.optional?_word, Json.required?_texts, Json.required?_map] at h
      obtain ⟨_, hid, _, hprovider, _, htype, _, hcrn, _, htags, _, hcapacity, _, hiops, _,
        hattributes, h⟩ := h
      obtain rfl := Option.some.inj h
      exact .cons hid <| .cons hprovider <| .cons htype <| .cons hcrn <| .cons htags <|
        .cons hcapacity <| .cons hiops <| .cons hattributes .nil
    · cases h
  · rintro ⟨slots, hslots, _ | ⟨hid, _ | ⟨hprovider, _ | ⟨htype, _ | ⟨hcrn, _ | ⟨htags,
      _ | ⟨hcapacity, _ | ⟨hiops, _ | ⟨hattributes, _ | _⟩⟩⟩⟩⟩⟩⟩⟩⟩
    refine Option.bind_eq_some_iff.mpr ⟨_, hslots, ?_⟩
    simp [Json.required?_text.mpr hid, Json.required?_text.mpr hprovider,
      Json.required?_text.mpr htype, Json.required?_text.mpr hcrn, Json.required?_texts.mpr htags,
      Json.optional?_word.mpr hcapacity, Json.optional?_text.mpr hiops,
      Json.required?_map.mpr hattributes]

/-- What fits the fields, whatever it is, makes a descriptor. -/
theorem exists_holds {values : String → List Json}
    (h : ∀ f ∈ knownFields, f.Fits (values f.name)) :
    ∃ d, ∀ f ∈ knownFields, f.Holds d (values f.name) := by
  simp only [knownFields, List.forall_mem_cons] at h ⊢
  obtain ⟨⟨id, hid⟩, ⟨provider, hprovider⟩, ⟨volumeType, htype⟩, ⟨crn, hcrn⟩, ⟨tags, htags⟩,
    ⟨capacity, hcapacity⟩, ⟨iops, hiops⟩, ⟨attributes, hattributes⟩, -⟩ := h
  exact ⟨⟨id, provider, volumeType, crn, tags, capacity, iops, attributes⟩, hid, hprovider, htype,
    hcrn, htags, hcapacity, hiops, hattributes, List.forall_mem_nil _⟩

end Descriptor

/-! ## The law -/

/-- Snapshots and descriptors are read strictly. An object is taken exactly if
each required field stands in it once, with a value of its type, and each optional
one once at most, with null or a value of its type; the object of a claim is held
to the same, and nothing else in an object counts, nor does its order. A list of
the values of all fields in order, with null for what is absent, reads the same,
and a list of another length is refused. -/
theorem snapshots_and_descriptors_are_read_strictly :
    Json.ReadsStrictly Snapshot.knownFields Snapshot.ofText? ∧
    Json.ReadsStrictly Descriptor.knownFields Descriptor.ofText? :=
  ⟨Json.readsStrictly Snapshot.ofJson?_eq_some_iff fun _ => Snapshot.exists_holds,
    Json.readsStrictly Descriptor.ofJson?_eq_some_iff fun _ => Descriptor.exists_holds⟩

/-- A snapshot out of order, with members that no field has and a key of the
attributes that stands twice. -/
theorem a_snapshot_among_unknown_members :
    Snapshot.ofText? (Json.render (.record
      [("volume_handle", .ofText "v-1"),
        ("seen", .list [.record [("seen", .null), ("seen", .list [])], .bool true]),
        ("attributes", .record
          [("tags", .ofText "old"), ("iops", .ofText "3"), ("tags", .ofText "new")]),
        ("phase", .ofText "Bound"),
        ("seen", .int 7),
        ("claim_ref", .record
          [("name", .ofText "data"), ("kind", .null), ("namespace", .ofText "shop")]),
        ("driver", .null),
        ("storage_class", .ofText "gold"),
        ("name", .ofText "pv-1"),
        ("reclaim_policy", .ofText "Delete")])) =
      some { Snapshot.blank with
        name := "pv-1"
        phase := .bound
        attributes := Keyed.ofList [("iops", "3"), ("tags", "new")]
        reclaimPolicy := "Delete"
        storageClass := "gold"
        claimRef := some ⟨"shop", "data"⟩
        volumeHandle := "v-1" } := by
  refine (snapshots_and_descriptors_are_read_strictly.1.reads_object
    (Json.Legible.writes_render ?_)).mpr ?_
  · refine Json.legible_record (List.forall_iff_forall_mem.mp ?_)
    refine ⟨.str _, .list (List.forall_iff_forall_mem.mp ⟨?_, .bool _⟩), ?_, .str _, .int _, ?_,
      .null, .str _, .str _, .str _⟩
    · exact Json.legible_record
        (List.forall_iff_forall_mem.mp ⟨.null, .list (List.forall_mem_nil _)⟩)
    · exact Json.legible_record (List.forall_iff_forall_mem.mp ⟨.str _, .str _, .str _⟩)
    · exact Json.legible_record (List.forall_iff_forall_mem.mp ⟨.str _, .null, .str _⟩)
  · simp only [Json.IsObject, Snapshot.knownFields, List.forall_mem_cons]
    have hmap : Json.IsMap
        (.record [("tags", .ofText "old"), ("iops", .ofText "3"), ("tags", .ofText "new")])
        (Keyed.ofList [("iops", "3"), ("tags", "new")]) := by
      refine ⟨[("tags", "old"), ("iops", "3"), ("tags", "new")], rfl, fun key => ?_⟩
      rw [← Keyed.find?_ofList]
      exact congrArg (Keyed.find? · key) (by decide)
    have hclaim : Json.IsRecord ClaimRef.knownFields
        (.record [("name", .ofText "data"), ("kind", .null), ("namespace", .ofText "shop")])
        ⟨"shop", "data"⟩ := by
      refine .object ?_
      simp only [Json.IsObject, ClaimRef.knownFields, List.forall_mem_cons]
      exact ⟨.value rfl, .value rfl, List.forall_mem_nil _⟩
    exact ⟨.value rfl, .absent, .absent, .value (.name (by decide)), .absent, .value hmap,
      .value rfl, .value rfl, .value hclaim, .null, .value rfl, List.forall_mem_nil _⟩

end VolumeSync
