import VolumeSync.Proofs.DescriptorSources

-- The gate beside what it keeps from the provider. A change is decided on by
-- three parts of a snapshot, and a volume is described by more of them, each
-- with defaults of its own. Skipping is an equivalence, and two snapshots in
-- one class are told with the same capacity, rate and status; nothing that
-- the provider would see of these three is ever skipped.

namespace VolumeSync

/-! ## Skipping -/

namespace Change

/-- The change from the one snapshot to the other is skipped. -/
def Skips (a b : Snapshot) : Prop := decision ⟨some a, b⟩ = .skip

instance (a b : Snapshot) : Decidable (Skips a b) := inferInstanceAs (Decidable (_ = _))

theorem skips_iff_alike {a b : Snapshot} : Skips a b ↔ Alike a b := by
  unfold Skips
  rw [decision_eq_skip_iff]
  simp

theorem Alike.symm {a b : Snapshot} (h : Alike a b) : Alike b a :=
  ⟨h.1.symm, h.2.1.symm, h.2.2.symm⟩

theorem equivalence_skips : Equivalence Skips where
  refl a := skips_iff_alike.mpr (Alike.refl a)
  symm h := skips_iff_alike.mpr (skips_iff_alike.mp h).symm
  trans h h' := skips_iff_alike.mpr ((skips_iff_alike.mp h).trans (skips_iff_alike.mp h'))

theorem isMaterial_iff (c : Change) : c.isMaterial = true ↔ c.decision ≠ .skip := by
  unfold isMaterial
  rcases c.decision with _ | _
  · decide
  · decide

/-- A first bind is a change of phase, and no change of phase is skipped. -/
theorem not_skips_of_isFirstBind {a b : Snapshot} (h : isFirstBind ⟨some a, b⟩ = true) :
    ¬ Skips a b :=
  (isMaterial_iff _).mp (isMaterial_of_isFirstBind h)

end Change

/-! ## What else is told -/

namespace Snapshot

/-- The two are the same in everything that is told of them besides phase,
capacity and rate. Attributes that are absent count as empty. -/
structure SameElse (a b : Snapshot) : Prop where
  handle : a.volumeHandle = b.volumeHandle
  driver : a.driver = b.driver
  name : a.name = b.name
  claimRef : a.claimRef = b.claimRef
  reclaimPolicy : a.reclaimPolicy = b.reclaimPolicy
  storageClass : a.storageClass = b.storageClass
  tags : a.attr "tags" = b.attr "tags"
  crn : a.attr "volumeCRN" = b.attr "volumeCRN"
  cluster : a.attr "clusterID" = b.attr "clusterID"

variable {a b : Snapshot}

theorem SameElse.sameOrigin (h : a.SameElse b) : a.SameOrigin b :=
  ⟨h.handle, h.driver, h.crn, h.cluster⟩

/-- What the gate leaves alike fills in the rest of the details. -/
theorem SameElse.sameDetails (h : a.SameElse b) (halike : Change.Alike a b) : a.SameDetails b := by
  obtain ⟨_, hbytes, hiops⟩ := halike
  constructor
  · exact congrArg Text.trim h.tags
  · exact congrArg (Option.getD · "") hiops
  · exact congrArg wholeGibibytes hbytes
  · exact h.reclaimPolicy
  · exact h.storageClass
  · exact congrArg (fun claim => (claim.map ClaimRef.namespaceName).getD "") h.claimRef
  · exact congrArg (fun claim => (claim.map ClaimRef.name).getD "") h.claimRef
  · exact h.name

end Snapshot

/-! ## What is told of a class -/

/-- The descriptor is a tombstone in all its parts: the volume is gone, and
there is nothing to tell of it. -/
structure Descriptor.IsBare (d : Descriptor) : Prop where
  deleted : d.status? = some Descriptor.deleted
  tags : d.tags = []
  capacity : d.capacity = none
  iops : d.iops = none

namespace Site

variable (site : Site) {a b : Snapshot}

/-- A tombstone is one in all its parts, and no other descriptor is in any of
them. -/
theorem isBare_describe (s : Snapshot) : (site.describe s).IsBare ↔ s.phase = .released := by
  constructor
  · intro h
    exact (site.status?_describe_eq_deleted_iff s).mp h.deleted
  · intro h
    obtain ⟨htags, hcapacity, hiops⟩ := site.describe_of_released h
    exact ⟨(site.status?_describe_eq_deleted_iff s).mpr h, htags, hcapacity, hiops⟩

theorem tags_describe_eq_nil_iff (s : Snapshot) :
    (site.describe s).tags = [] ↔ s.phase = .released := by
  constructor
  · intro h
    by_contra hr
    have hlen := s.seven_le_length_tags site.provisioner
    rw [← (site.describe_of_not_released hr).1, h] at hlen
    cases hlen
  · intro h
    exact (site.describe_of_released h).1

theorem describe_eq_of_alike (halike : Change.Alike a b) (h : a.SameElse b) :
    site.describe a = site.describe b := by
  refine (site.describe_eq_iff a b).mpr ⟨?_, h.sameOrigin.sameVolume _, fun _ => ?_⟩
  · rw [halike.1]
  · exact h.sameDetails halike

end Site

namespace Change

/-! ## The law -/

/-- Skipping is an equivalence of snapshots, and a first bind is never within
a class of it. Every site describes the snapshots of a class with the same
capacity, the same rate and the same status, and all of them as tombstones or
none, and describes them alike altogether if they agree in the rest that is
told. So a change by which the provider would see another capacity, rate or
status, or a tombstone come or go, has to reach it. -/
theorem no_visible_change_is_skipped :
    Equivalence Skips ∧
    (∀ a b, isFirstBind ⟨some a, b⟩ = true →
      ¬ Skips a b ∧ isMaterial ⟨some a, b⟩ = true) ∧
    ∀ (site : Site) (a b : Snapshot),
      (Skips a b →
        (site.describe a).capacity = (site.describe b).capacity ∧
        (site.describe a).iops = (site.describe b).iops ∧
        (site.describe a).status? = (site.describe b).status? ∧
        ((site.describe a).IsBare ↔ (site.describe b).IsBare) ∧
        ((site.describe a).tags = [] ↔ (site.describe b).tags = [])) ∧
      (Skips a b → a.SameElse b → site.describe a = site.describe b) ∧
      ((site.describe a).capacity ≠ (site.describe b).capacity ∨
          (site.describe a).iops ≠ (site.describe b).iops ∨
          (site.describe a).status? ≠ (site.describe b).status? →
        decision ⟨some a, b⟩ = .process ∧ isMaterial ⟨some a, b⟩ = true) := by
  refine ⟨equivalence_skips, ?_, ?_⟩
  · intro a b hfirst
    exact ⟨not_skips_of_isFirstBind hfirst, isMaterial_of_isFirstBind hfirst⟩
  intro site a b
  have htold : Skips a b →
      (site.describe a).capacity = (site.describe b).capacity ∧
      (site.describe a).iops = (site.describe b).iops ∧
      (site.describe a).status? = (site.describe b).status? ∧
      ((site.describe a).IsBare ↔ (site.describe b).IsBare) ∧
      ((site.describe a).tags = [] ↔ (site.describe b).tags = []) := by
    intro hskip
    have halike := skips_iff_alike.mp hskip
    obtain ⟨hcapacity, hiops, hstatus, _⟩ := site.describe_of_alike halike
    refine ⟨hcapacity, hiops, hstatus, ?_, ?_⟩
    · rw [site.isBare_describe, site.isBare_describe, halike.1]
    · rw [site.tags_describe_eq_nil_iff, site.tags_describe_eq_nil_iff, halike.1]
  refine ⟨htold, ?_, ?_⟩
  · intro hskip helse
    exact site.describe_eq_of_alike (skips_iff_alike.mp hskip) helse
  · intro hseen
    have hnot : decision ⟨some a, b⟩ ≠ .skip := by
      intro hskip
      obtain ⟨hcapacity, hiops, hstatus, _⟩ := htold hskip
      rcases hseen with hseen | hseen | hseen
      · exact hseen hcapacity
      · exact hseen hiops
      · exact hseen hstatus
    refine ⟨?_, (isMaterial_iff _).mpr hnot⟩
    rcases hdecision : decision ⟨some a, b⟩ with _ | _
    · exact absurd hdecision hnot
    · rfl

/-- A volume without a capacity is like one of zero bytes, whatever its
identity in the cluster; it is unlike one that has a gibibyte, and unlike
itself once it binds. -/
theorem a_capacity_of_nothing_is_like_none :
    let site : Site := ⟨"d", "p", .single "d" "t"⟩
    let bare : Snapshot := { Snapshot.blank with
      name := "v", phase := .other "Bound", driver := some "d", volumeHandle := "h",
      attributes := .ofList [("iops", "100"), ("tags", "a,b")] }
    let zero : Snapshot := { bare with
      uid := some "u", resourceVersion := some "2", capacityBytes := some 0,
      attributes := bare.attributes.insert "fsType" "ext4" }
    let gib : Snapshot := { zero with capacityBytes := some 1073741824 }
    Skips bare zero ∧ bare.SameElse zero ∧ site.describe bare = site.describe zero ∧
    (site.describe zero).capacity ≠ (site.describe gib).capacity ∧ ¬ Skips zero gib ∧
    isFirstBind ⟨some bare, { bare with phase := .bound }⟩ = true ∧
      ¬ Skips bare { bare with phase := .bound } := by
  intro site bare zero gib
  obtain ⟨_, hbind, hsite⟩ := no_visible_change_is_skipped
  have hskip : Skips bare zero := by decide
  have helse : bare.SameElse zero := ⟨rfl, rfl, rfl, rfl, rfl, rfl, by decide, by decide, by decide⟩
  have hseen : (site.describe zero).capacity ≠ (site.describe gib).capacity := by decide
  have hfirst : isFirstBind ⟨some bare, { bare with phase := .bound }⟩ = true := by decide
  refine ⟨hskip, helse, (hsite site bare zero).2.1 hskip helse, hseen, ?_, hfirst,
    (hbind _ _ hfirst).1⟩
  obtain ⟨hprocess, _⟩ := (hsite site zero gib).2.2 (.inl hseen)
  intro hskip'
  rw [Skips, hprocess] at hskip'
  cases hskip'

end Change

end VolumeSync
