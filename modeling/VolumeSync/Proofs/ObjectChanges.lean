import VolumeSync.PersistentVolume
import VolumeSync.Proofs.LastSent
import VolumeSync.Proofs.QuantityValue

-- Changes of the cluster's objects. Whether a change has to reach the
-- provider is decided on snapshots; here it is said of the objects that the
-- snapshots are made from, in the texts that stand in them.

namespace VolumeSync

/-! ## Reported phases -/

namespace Phase

/-- The report leaves the phase open. -/
def Unreported (report : Option String) : Prop :=
  report = none ∨ report = some "" ∨ report = some "Unknown"

/-- The reports are the same text, or each of them leaves the phase open. -/
def SameReport (a b : Option String) : Prop := a = b ∨ Unreported a ∧ Unreported b

/-- The name of the reported phase. -/
def reportedName : Option String → String
  | none => "Unknown"
  | some name => if name = "" then "Unknown" else name

theorem reportedName_some {name : String} (h : name ≠ "") : reportedName (some name) = name :=
  if_neg h

theorem text_of_ofName? {name : String} {p : Phase} (h : ofName? name = some p) :
    p.text = name := by
  have hmem : (name, p) ∈ named := mem_of_lookup h
  simp only [named, List.mem_cons, List.not_mem_nil, or_false, Prod.mk.injEq] at hmem
  rcases hmem with ⟨rfl, rfl⟩ | ⟨rfl, rfl⟩ | ⟨rfl, rfl⟩ | ⟨rfl, rfl⟩ | ⟨rfl, rfl⟩
  · rfl
  · rfl
  · rfl
  · rfl
  · rfl

/-- A report is read by the name that it gives. -/
theorem ofReport_eq (report : Option String) :
    ofReport report = (ofName? (reportedName report)).getD (other (reportedName report)) := by
  unfold ofReport
  split
  · rfl
  · rfl
  case _ name hname => rw [reportedName_some hname]

theorem text_ofReport (report : Option String) : (ofReport report).text = reportedName report := by
  rw [ofReport_eq]
  rcases hname : ofName? (reportedName report) with _ | p
  · rfl
  · exact text_of_ofName? hname

theorem ofReport_eq_iff (a b : Option String) :
    ofReport a = ofReport b ↔ reportedName a = reportedName b := by
  constructor
  · intro h
    rw [← text_ofReport, ← text_ofReport, h]
  · intro h
    rw [ofReport_eq, ofReport_eq, h]

theorem unreported_iff (report : Option String) :
    Unreported report ↔ reportedName report = "Unknown" := by
  unfold Unreported reportedName
  rcases report with _ | name
  · simp
  · by_cases hname : name = ""
    · simp [hname]
    · simp [hname]

theorem reportedName_of_not_unreported {report : Option String} (h : ¬ Unreported report) :
    report = some (reportedName report) := by
  unfold Unreported at h
  rcases report with _ | name
  · simp at h
  · have hname : name ≠ "" := by
      rintro rfl
      simp at h
    rw [reportedName_some hname]

/-- Two reports are read as the same phase exactly if they are the same or
both leave it open. -/
theorem sameReport_iff (a b : Option String) : SameReport a b ↔ ofReport a = ofReport b := by
  rw [ofReport_eq_iff]
  constructor
  · rintro (rfl | ⟨ha, hb⟩)
    · rfl
    · rw [(unreported_iff a).mp ha, (unreported_iff b).mp hb]
  · intro h
    by_cases ha : Unreported a
    · refine .inr ⟨ha, ?_⟩
      rwa [unreported_iff, ← h, ← unreported_iff]
    · have hb : ¬ Unreported b := by rwa [unreported_iff, ← h, ← unreported_iff]
      refine .inl ?_
      rw [reportedName_of_not_unreported ha, reportedName_of_not_unreported hb, h]

end Phase

/-- A decision is settled by whether it skips the change. -/
theorem Decision.eq_of_skip_iff {a b : Decision} (h : a = .skip ↔ b = .skip) : a = b := by
  cases a with
  | skip => exact (h.mp rfl).symm
  | process =>
    cases b with
    | skip => exact h.mpr rfl
    | process => rfl

/-! ## What the objects say -/

namespace PersistentVolume

/-- The declared bytes. A capacity that is not declared or cannot be read
counts as none. -/
def bytes (pv : PersistentVolume) : Int64 := (pv.storage.bind bytesOfQuantity?).getD 0

/-- The rate of operations that is said where the volume comes from. -/
def iops? (pv : PersistentVolume) : Option String :=
  pv.source.bind fun source => source.attributes.find? Snapshot.iopsKey

/-- The object declares this quantity, and it can be read. -/
def Declares (pv : PersistentVolume) (q : Quantity) : Prop :=
  ∃ raw w, pv.storage = some raw ∧ q.StandsIn raw ∧ bytesOfQuantity? raw = some w

/-- The objects say the same of phase, capacity and rate. -/
structure SaysTheSame (p q : PersistentVolume) : Prop where
  phase : p.phase = q.phase
  storage : p.storage = q.storage
  iops : p.iops? = q.iops?

theorem iops?_snapshot (pv : PersistentVolume) : pv.snapshot.iops? = pv.iops? := by
  unfold Snapshot.iops? Snapshot.attr? snapshot iops?
  rcases pv.source with _ | source
  · rfl
  · rfl

theorem alike_snapshot_iff (p q : PersistentVolume) :
    Change.Alike p.snapshot q.snapshot ↔
      Phase.SameReport p.phase q.phase ∧ p.bytes = q.bytes ∧ p.iops? = q.iops? := by
  unfold Change.Alike
  rw [Phase.sameReport_iff, iops?_snapshot, iops?_snapshot]
  rfl

theorem bytes_of_declares {pv : PersistentVolume} {q : Quantity} (h : pv.Declares q) :
    pv.bytes.toInt = ⌈q.value⌉ := by
  obtain ⟨raw, w, hraw, hq, hw⟩ := h
  unfold bytes
  rw [hraw, Option.bind_some, hw]
  exact ((Quantity.bytes_of_standsIn hq).mp hw).2

/-- The change from the one object to the other. -/
def change (p q : PersistentVolume) : Change := ⟨some p.snapshot, q.snapshot⟩

theorem decision_change (p q : PersistentVolume) :
    (change p q).decision = .skip ↔
      Phase.SameReport p.phase q.phase ∧ p.bytes = q.bytes ∧ p.iops? = q.iops? := by
  rw [Change.decision_eq_skip_iff, ← alike_snapshot_iff]
  unfold change
  simp

/-! ## The law -/

/-- A change is skipped exactly if the two objects report the same phase, or
both none, declare the same number of bytes, and say the same of the rate.
However they are written, readable quantities are the same number of bytes
exactly if their values are the same when they are rounded up; and nothing
else that the objects say makes a difference. -/
theorem a_change_is_skipped_if_the_objects_say_so (p q : PersistentVolume) :
    ((change p q).decision = .skip ↔
      Phase.SameReport p.phase q.phase ∧ p.bytes = q.bytes ∧ p.iops? = q.iops?) ∧
    (∀ a b : Quantity, p.Declares a → q.Declares b →
      (p.bytes = q.bytes ↔ ⌈a.value⌉ = ⌈b.value⌉)) ∧
    ∀ p' q' : PersistentVolume, p.SaysTheSame p' → q.SaysTheSame q' →
      (change p' q').decision = (change p q).decision := by
  refine ⟨decision_change p q, ?_, ?_⟩
  · intro a b ha hb
    rw [← Int64.toInt_inj, bytes_of_declares ha, bytes_of_declares hb]
  · intro p' q' hp hq
    have hsame : (change p' q').decision = .skip ↔ (change p q).decision = .skip := by
      rw [decision_change, decision_change]
      unfold bytes
      rw [hp.phase, hp.storage, hp.iops, hq.phase, hq.storage, hq.iops]
    exact Decision.eq_of_skip_iff hsame

/-- An object that says nothing but its phase and its capacity. -/
def plain (phase storage : Option String) : PersistentVolume :=
  { name := none, generateName := none, uid := none, resourceVersion := none, phase, storage,
    claimRef := none, reclaimPolicy := none, storageClass := none, source := none }

theorem a_gibibyte_is_skipped_however_written :
    (change (plain none (some "1Gi")) (plain (some "Unknown") (some "1024Mi"))).decision = .skip ∧
    (∃ a b : Quantity, (plain none (some "1Gi")).Declares a ∧
      (plain (some "Unknown") (some "1024Mi")).Declares b ∧ ⌈a.value⌉ = ⌈b.value⌉) ∧
    (change { plain none (some "1Gi") with name := some "pv-1" }
      (plain (some "Unknown") (some "1024Mi"))).decision = .skip := by
  obtain ⟨hskip, hceil, helse⟩ := a_change_is_skipped_if_the_objects_say_so
    (plain none (some "1Gi")) (plain (some "Unknown") (some "1024Mi"))
  have hbytes :
      (plain none (some "1Gi")).bytes = (plain (some "Unknown") (some "1024Mi")).bytes := by
    decide +kernel
  have hsame := hskip.mpr ⟨.inr ⟨.inl rfl, .inr (.inr rfl)⟩, hbytes, rfl⟩
  refine ⟨hsame, ?_, ?_⟩
  · let a : Quantity :=
      { sign := .unsaid, whole := "1".toList, fraction := none, suffix := "Gi".toList,
        scale := ⟨30, 0⟩, isDigits := by decide, ne_nil := by decide,
        scaled := Scale.ofSuffix?_eq_some_iff.mp rfl }
    let b : Quantity :=
      { sign := .unsaid, whole := "1024".toList, fraction := none, suffix := "Mi".toList,
        scale := ⟨20, 0⟩, isDigits := by decide, ne_nil := by decide,
        scaled := Scale.ofSuffix?_eq_some_iff.mp rfl }
    have ha : (plain none (some "1Gi")).Declares a :=
      ⟨"1Gi", 1073741824, rfl, ⟨[], [], Text.allBlank_nil, Text.allBlank_nil, rfl⟩,
        by decide +kernel⟩
    have hb : (plain (some "Unknown") (some "1024Mi")).Declares b :=
      ⟨"1024Mi", 1073741824, rfl, ⟨[], [], Text.allBlank_nil, Text.allBlank_nil, rfl⟩,
        by decide +kernel⟩
    exact ⟨a, b, ha, hb, (hceil a b ha hb).mp hbytes⟩
  · exact (helse _ _ ⟨rfl, rfl, rfl⟩ ⟨rfl, rfl, rfl⟩).trans hsame

end PersistentVolume

end VolumeSync
