import VolumeSync.Proofs.FiniteMaps
import VolumeSync.Proofs.TagList
import VolumeSync.Proofs.Traffic

-- What a descriptor comes from. A tombstone is made of the identity of the
-- volume, any other descriptor of the identity and of what is told about the
-- volume; nothing else that is known of the volume has a part in it, and
-- nothing of these parts is lost in it.

namespace VolumeSync

/-! ## Registrations -/

namespace VolumeTypes

/-- The types after drivers have been registered one after another. -/
def ofEntries (entries : List (String × String)) : VolumeTypes :=
  entries.foldl (fun types entry => types.register entry.1 entry.2) empty

theorem types_ofEntries (entries : List (String × String)) :
    (ofEntries entries).types = .ofList entries := by
  induction entries using List.reverseRecOn with
  | nil => rfl
  | append_singleton entries entry ih =>
    rw [Keyed.ofList_snoc, ← ih, ofEntries, List.foldl_append]
    rfl

/-- A driver has the type that it was registered with last. -/
theorem typeOf_ofEntries (entries : List (String × String)) (driver : String) :
    (ofEntries entries).typeOf (some driver) = (entries.reverse.lookup driver).getD "" := by
  rw [typeOf, Option.bind_some, types_ofEntries, Keyed.find?_ofList]

/-- A driver that was never registered has the empty type. -/
theorem typeOf_ofEntries_of_not_mem {driver : String} {entries : List (String × String)}
    (h : driver ∉ entries.map (·.1)) : (ofEntries entries).typeOf (some driver) = "" := by
  have hnone : entries.reverse.lookup driver = none := by
    refine List.lookup_eq_none_iff.mpr fun e he => bne_iff_ne.mpr ?_
    rintro rfl
    exact h (List.mem_map_of_mem (List.mem_reverse.mp he))
  rw [typeOf_ofEntries, hnone, Option.getD_none]

/-- The last registration of a driver counts. -/
theorem typeOf_ofEntries_of_last {driver volumeType : String}
    {before after : List (String × String)} (h : driver ∉ after.map (·.1)) :
    (ofEntries (before ++ (driver, volumeType) :: after)).typeOf (some driver) = volumeType := by
  have hlast : (before ++ (driver, volumeType) :: after).reverse.lookup driver =
      some volumeType := by
    refine List.lookup_eq_some_iff.mpr ⟨after.reverse, before.reverse, by simp, fun e he => ?_⟩
    rw [bne_iff_ne]
    rintro rfl
    exact h (List.mem_map_of_mem (List.mem_reverse.mp he))
  rw [typeOf_ofEntries, hlast, Option.getD_some]

end VolumeTypes

/-! ## What is told -/

namespace Snapshot

/-- The two are the same volume by its handle, its driver and its owner. -/
structure SameOrigin (a b : Snapshot) : Prop where
  handle : a.volumeHandle = b.volumeHandle
  driver : a.driver = b.driver
  crn : a.attr "volumeCRN" = b.attr "volumeCRN"
  cluster : a.attr "clusterID" = b.attr "clusterID"

/-- The two are told as the same volume by a watcher that knows these types
of volumes. Of the driver only the type of its volumes is told. -/
structure SameVolume (types : VolumeTypes) (a b : Snapshot) : Prop where
  handle : a.volumeHandle = b.volumeHandle
  type : types.typeOf a.driver = types.typeOf b.driver
  crn : a.attr "volumeCRN" = b.attr "volumeCRN"
  cluster : a.attr "clusterID" = b.attr "clusterID"

theorem SameOrigin.sameVolume {a b : Snapshot} (h : a.SameOrigin b) (types : VolumeTypes) :
    SameVolume types a b :=
  ⟨h.handle, congrArg types.typeOf h.driver, h.crn, h.cluster⟩

/-- What is told about the two is the same. Texts that are absent count as
empty, and an absent capacity as zero. -/
structure SameDetails (a b : Snapshot) : Prop where
  tags : Text.trim (a.attr "tags") = Text.trim (b.attr "tags")
  iops : a.attr "iops" = b.attr "iops"
  capacity : wholeGibibytes a.bytes = wholeGibibytes b.bytes
  reclaimPolicy : a.reclaimPolicy = b.reclaimPolicy
  storageClass : a.storageClass = b.storageClass
  claimNamespace : a.claimNamespace = b.claimNamespace
  claimName : a.claimName = b.claimName
  name : a.name = b.name

/-- The attributes that a descriptor is made of. -/
def toldAttributes : List String := ["tags", "iops", "volumeCRN", "clusterID"]

theorem attr_congr {a b : Snapshot} {key : String}
    (h : a.attributes.find? key = b.attributes.find? key) : a.attr key = b.attr key := by
  unfold attr attr?
  rw [h]

/-- A snapshot that differs from another in nothing that is told. -/
theorem same_update (s : Snapshot) (uid version : Option String) (phase : Phase)
    {attributes : Keyed String}
    (h : ∀ key ∈ toldAttributes, s.attributes.find? key = attributes.find? key) :
    SameOrigin s { s with uid, resourceVersion := version, phase, attributes } ∧
      SameDetails s { s with uid, resourceVersion := version, phase, attributes } := by
  have hattr : ∀ key ∈ toldAttributes, s.attr key =
      attr { s with uid, resourceVersion := version, phase, attributes } key :=
    fun key hkey => attr_congr (h key hkey)
  refine ⟨⟨rfl, rfl, hattr _ (by decide), hattr _ (by decide)⟩, ?_⟩
  exact ⟨congrArg Text.trim (hattr _ (by decide)), hattr _ (by decide), rfl, rfl, rfl, rfl, rfl,
    rfl⟩

theorem tagSource_eq_iff (a b : Snapshot) (provisioner : String) :
    a.tagSource provisioner = b.tagSource provisioner ↔
      Text.trim (a.attr "tags") = Text.trim (b.attr "tags") ∧
      a.attr "clusterID" = b.attr "clusterID" ∧ a.reclaimPolicy = b.reclaimPolicy ∧
      a.storageClass = b.storageClass ∧ a.claimNamespace = b.claimNamespace ∧
      a.claimName = b.claimName ∧ a.name = b.name := by
  unfold tagSource
  simp only [TagSource.mk.injEq, and_true]
  rfl

end Snapshot

namespace Site

/-- Every descriptor has two attributes: the cluster, spelled as the volume
has it, and the status. -/
theorem entries_attributes (s : Snapshot) (status : String) :
    (attributes s status).entries = [("clusterid", s.attr "clusterID"), ("status", status)] := by
  have hlast : ∀ e ∈ [("clusterid", s.attr "clusterID")], e.1 < "status" := by
    intro e he
    obtain rfl := List.mem_singleton.mp he
    exact (by decide : "clusterid" < "status")
  exact Keyed.insertEntry_of_forall_lt hlast

theorem attributes_inj {a b : Snapshot} {status status' : String} :
    attributes a status = attributes b status' ↔
      a.attr "clusterID" = b.attr "clusterID" ∧ status = status' := by
  rw [Keyed.ext_iff, entries_attributes, entries_attributes]
  simp

/-- A tombstone tells which volume it is and nothing else. -/
theorem describe_eq_iff_of_released (site : Site) {a b : Snapshot} (ha : a.phase = .released)
    (hb : b.phase = .released) :
    site.describe a = site.describe b ↔ a.SameVolume site.volumeTypes b := by
  unfold describe
  rw [ha, hb]
  simp only [Phase.isReleased, BEq.rfl, if_true, Descriptor.mk.injEq, attributes_inj, true_and,
    and_true]
  constructor
  · rintro ⟨hhandle, htype, hcrn, hcluster⟩
    exact ⟨hhandle, htype, hcrn, hcluster⟩
  · rintro ⟨hhandle, htype, hcrn, hcluster⟩
    exact ⟨hhandle, htype, hcrn, hcluster⟩

/-- A volume that is not released is told with all its details. -/
theorem describe_eq_iff_of_not_released (site : Site) {a b : Snapshot} (ha : a.phase ≠ .released)
    (hb : b.phase ≠ .released) :
    site.describe a = site.describe b ↔ a.SameVolume site.volumeTypes b ∧ a.SameDetails b := by
  have ha : ¬a.phase.isReleased = true := mt (Phase.isReleased_iff _).mp ha
  have hb : ¬b.phase.isReleased = true := mt (Phase.isReleased_iff _).mp hb
  unfold describe
  rw [if_neg ha, if_neg hb]
  simp only [Descriptor.mk.injEq, Snapshot.tags_inj, Snapshot.tagSource_eq_iff, attributes_inj,
    Option.some.injEq, true_and, and_true]
  constructor
  · rintro ⟨hhandle, htype, hcrn, ⟨htags, hcluster, hpolicy, hclass, hspace, hclaim, hname⟩,
      hcapacity, hiops, _⟩
    exact ⟨⟨hhandle, htype, hcrn, hcluster⟩,
      ⟨htags, hiops, hcapacity, hpolicy, hclass, hspace, hclaim, hname⟩⟩
  · rintro ⟨⟨hhandle, htype, hcrn, hcluster⟩,
      ⟨htags, hiops, hcapacity, hpolicy, hclass, hspace, hclaim, hname⟩⟩
    exact ⟨hhandle, htype, hcrn, ⟨htags, hcluster, hpolicy, hclass, hspace, hclaim, hname⟩,
      hcapacity, hiops, hcluster⟩

/-- Two descriptors are the same exactly if both or none are tombstones, the
volume is the same, and, if they are no tombstones, the details are. -/
theorem describe_eq_iff (site : Site) (a b : Snapshot) :
    site.describe a = site.describe b ↔
      (a.phase = .released ↔ b.phase = .released) ∧ a.SameVolume site.volumeTypes b ∧
        (a.phase ≠ .released → a.SameDetails b) := by
  have hphase : site.describe a = site.describe b →
      (a.phase = .released ↔ b.phase = .released) := by
    intro h
    rw [← site.isTombstone_describe a, ← site.isTombstone_describe b, h]
  by_cases ha : a.phase = .released
  · constructor
    · intro h
      have hb := (hphase h).mp ha
      exact ⟨hphase h, (site.describe_eq_iff_of_released ha hb).mp h, fun hnot => absurd ha hnot⟩
    · rintro ⟨hiff, hvolume, _⟩
      exact (site.describe_eq_iff_of_released ha (hiff.mp ha)).mpr hvolume
  · constructor
    · intro h
      have hb := mt (hphase h).mpr ha
      obtain ⟨hvolume, hdetails⟩ := (site.describe_eq_iff_of_not_released ha hb).mp h
      exact ⟨hphase h, hvolume, fun _ => hdetails⟩
    · rintro ⟨hiff, hvolume, hdetails⟩
      exact (site.describe_eq_iff_of_not_released ha (mt hiff.mpr ha)).mpr ⟨hvolume, hdetails ha⟩

theorem entries_describe (site : Site) (s : Snapshot) :
    (site.describe s).attributes.entries =
      [("clusterid", s.attr "clusterID"),
        ("status", if s.phase = .released then "deleted" else "created")] := by
  unfold describe
  by_cases hr : s.phase = .released
  · rw [if_pos hr, if_pos ((Phase.isReleased_iff _).mpr hr)]
    exact entries_attributes s "deleted"
  · rw [if_neg hr, if_neg (mt (Phase.isReleased_iff _).mp hr)]
    exact entries_attributes s "created"

/-! ## The law -/

/-- The descriptor of a released volume depends on its origin alone, that of
any other volume on its origin and its details. Identity and version of the
object, one phase or another beside the released one, and attributes that are
not told make no difference. Its own attributes are the cluster and the
status. In return, descriptors that are the same tell of the same volume with
the same details, and a tombstone is the same as a tombstone only. The type of
a volume is the one that its driver was registered with last, and is empty for
a driver that was not registered and for none. -/
theorem a_descriptor_depends_on_what_is_told (site : Site) (a b : Snapshot) :
    (a.phase = .released → b.phase = .released → a.SameOrigin b →
      site.describe a = site.describe b) ∧
    (a.phase ≠ .released → b.phase ≠ .released → a.SameOrigin b → a.SameDetails b →
      site.describe a = site.describe b) ∧
    (∀ (uid version : Option String) (phase : Phase) (attributes : Keyed String),
      (a.phase = .released ↔ phase = .released) →
      (∀ key ∈ Snapshot.toldAttributes, a.attributes.find? key = attributes.find? key) →
      site.describe a =
        site.describe { a with uid, resourceVersion := version, phase, attributes }) ∧
    (site.describe a).attributes.entries =
      [("clusterid", a.attr "clusterID"),
        ("status", if a.phase = .released then "deleted" else "created")] ∧
    (site.describe a = site.describe b ↔
      (a.phase = .released ↔ b.phase = .released) ∧ a.SameVolume site.volumeTypes b ∧
        (a.phase ≠ .released → a.SameDetails b)) ∧
    (site.describe a).volumeType = site.volumeTypes.typeOf a.driver ∧
    (∀ (before after : List (String × String)) (driver volumeType : String),
      driver ∉ after.map (·.1) →
      (VolumeTypes.ofEntries (before ++ (driver, volumeType) :: after)).typeOf (some driver) =
        volumeType) ∧
    (∀ (entries : List (String × String)) (driver : String), driver ∉ entries.map (·.1) →
      (VolumeTypes.ofEntries entries).typeOf (some driver) = "") ∧
    ∀ types : VolumeTypes, types.typeOf none = "" := by
  refine ⟨?_, ?_, ?_, site.entries_describe a, site.describe_eq_iff a b,
    (site.describe_identity a).2.2, ?_, ?_, VolumeTypes.typeOf_none⟩
  · intro ha hb h
    exact (site.describe_eq_iff_of_released ha hb).mpr (h.sameVolume _)
  · intro ha hb h hdetails
    exact (site.describe_eq_iff_of_not_released ha hb).mpr ⟨h.sameVolume _, hdetails⟩
  · intro uid version phase attributes hphase hattributes
    obtain ⟨horigin, hdetails⟩ := a.same_update uid version phase hattributes
    exact (site.describe_eq_iff a _).mpr ⟨hphase, horigin.sameVolume _, fun _ => hdetails⟩
  · intro before after driver volumeType h
    exact VolumeTypes.typeOf_ofEntries_of_last h
  · intro entries driver h
    exact VolumeTypes.typeOf_ofEntries_of_not_mem h

/-- A volume binds and grows by less than a gibibyte, and a blank goes from its
tags: it is told as before. Once it is released its name does not matter
either. -/
theorem a_volume_that_grows_by_a_little :
    let site : Site := ⟨"d", "p", .ofEntries [("d", "old"), ("d", "new"), ("e", "other")]⟩
    let before : Snapshot := { Snapshot.blank with
      name := "v", driver := some "d", volumeHandle := "h", capacityBytes := some 1073741824,
      attributes := .ofList [("clusterID", "C"), ("tags", " a,b")] }
    let after : Snapshot := { before with
      uid := some "u", phase := .bound, capacityBytes := some 2147483647,
      attributes := .ofList [("clusterID", "C"), ("iops", ""), ("kept", "x"), ("tags", "a,b")] }
    site.describe before = site.describe after ∧
    site.describe { before with phase := .released } =
      site.describe { after with phase := .released, name := "w" } ∧
    site.describe after ≠ site.describe { after with phase := .released } ∧
    site.describe after = site.describe { after with
      uid := none, resourceVersion := some "1", phase := .other "Bound",
      attributes := after.attributes.insert "status" "deleted" } ∧
    (site.describe after).volumeType = "new" ∧ site.volumeTypes.typeOf (some "f") = "" := by
  intro site before after
  obtain ⟨_, htold, _⟩ := a_descriptor_depends_on_what_is_told site before after
  obtain ⟨hreleased, _⟩ := a_descriptor_depends_on_what_is_told site
    { before with phase := .released } { after with phase := .released, name := "w" }
  obtain ⟨_, _, hother, _, hsame, htype, hlast, hunknown, _⟩ :=
    a_descriptor_depends_on_what_is_told site after { after with phase := .released }
  refine ⟨?_, ?_, ?_, ?_, ?_, hunknown _ "f" (by decide)⟩
  · exact htold (by decide) (by decide) ⟨rfl, rfl, rfl, by decide⟩
      ⟨by decide, by decide, by decide, rfl, rfl, rfl, rfl, rfl⟩
  · exact hreleased rfl rfl ⟨rfl, rfl, rfl, by decide⟩
  · intro h
    have hbound := (hsame.mp h).1.mpr rfl
    cases hbound
  · exact hother none (some "1") (.other "Bound") _ (by decide) (by decide)
  · rw [htype]
    exact hlast [("d", "old")] [("e", "other")] "d" "new" (by decide)

end Site

end VolumeSync
