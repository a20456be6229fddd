import VolumeSync.Json.Reader
import VolumeSync.Json.Writer
import VolumeSync.Proofs.JsonRecords
import VolumeSync.Snapshot.Json

-- Snapshots as text. What is written of a snapshot is read as the same
-- snapshot, whatever its texts hold, so no two snapshots are written alike.

namespace VolumeSync

/-! ## Parts of a snapshot -/

theorem Phase.ofJson?_toJson (p : Phase) : ofJson? p.toJson = some p := by
  cases p <;> rfl

theorem Phase.legible_toJson (p : Phase) : p.toJson.Legible := by
  cases p with
  | other text =>
    refine Json.legible_record fun f hf => ?_
    obtain rfl := List.mem_singleton.mp hf
    exact .str _
  | _ => exact .str _

theorem ClaimRef.ofJson?_toJson (c : ClaimRef) : ofJson? c.toJson = some c := by
  have hnames : fieldNames.Nodup := by decide
  have hfields : c.toJson.fields? fieldNames = _ := Json.fields?_record_self hnames
  rw [ofJson?, hfields]
  rfl

theorem ClaimRef.legible_toJson (c : ClaimRef) : c.toJson.Legible := by
  refine Json.legible_record fun f hf => ?_
  simp only [List.mem_cons, List.not_mem_nil, or_false] at hf
  rcases hf with rfl | rfl
  · exact .str _
  · exact .str _

namespace Snapshot

theorem ofJson?_toJson (s : Snapshot) : ofJson? s.toJson = some s := by
  have hnames : fieldNames.Nodup := by decide
  have hfields : s.toJson.fields? fieldNames = _ := Json.fields?_record_self hnames
  have huid := Json.optional?_ofText? s.uid
  have hversion := Json.optional?_ofText? s.resourceVersion
  have hphase : Json.required? Phase.ofJson? (some s.phase.toJson) = some s.phase :=
    Phase.ofJson?_toJson s.phase
  have hcapacity : Json.optional? Json.word? (some ((s.capacityBytes.map Json.ofWord).getD .null)) =
      some s.capacityBytes :=
    Json.optional?_getD_null Json.word?_ofWord (fun n => Json.noConfusion) s.capacityBytes
  have hattributes : Json.required? Json.map? (some (.ofMap s.attributes)) = some s.attributes :=
    Json.map?_ofMap s.attributes
  have hclaim :
      Json.optional? ClaimRef.ofJson? (some ((s.claimRef.map ClaimRef.toJson).getD .null)) =
        some s.claimRef :=
    Json.optional?_getD_null ClaimRef.ofJson?_toJson (fun c => Json.noConfusion) s.claimRef
  have hdriver := Json.optional?_ofText? s.driver
  rw [ofJson?, hfields]
  -- The fields that hold a plain text are read as it stands.
  change (do
    return {
      name := s.name
      uid := ← Json.optional? Json.text? (some (.ofText? s.uid))
      resourceVersion := ← Json.optional? Json.text? (some (.ofText? s.resourceVersion))
      phase := ← Json.required? Phase.ofJson? (some s.phase.toJson)
      capacityBytes := ←
        Json.optional? Json.word? (some ((s.capacityBytes.map Json.ofWord).getD .null))
      attributes := ← Json.required? Json.map? (some (.ofMap s.attributes))
      reclaimPolicy := s.reclaimPolicy
      storageClass := s.storageClass
      claimRef := ←
        Json.optional? ClaimRef.ofJson? (some ((s.claimRef.map ClaimRef.toJson).getD .null))
      driver := ← Json.optional? Json.text? (some (.ofText? s.driver))
      volumeHandle := s.volumeHandle }) = some s
  rw [huid, hversion, hphase, hcapacity, hattributes, hclaim, hdriver]
  rfl

theorem legible_toJson (s : Snapshot) : s.toJson.Legible := by
  have hcapacity : ((s.capacityBytes.map Json.ofWord).getD .null).Legible := by
    rcases s.capacityBytes with _ | n
    · exact .null
    · exact .int _
  have hclaim : ((s.claimRef.map ClaimRef.toJson).getD .null).Legible := by
    rcases s.claimRef with _ | c
    · exact .null
    · exact c.legible_toJson
  refine Json.legible_record fun f hf => ?_
  simp only [List.mem_cons, List.not_mem_nil, or_false] at hf
  rcases hf with rfl | rfl | rfl | rfl | rfl | rfl | rfl | rfl | rfl | rfl | rfl
  · exact .str _
  · exact Json.legible_ofText? _
  · exact Json.legible_ofText? _
  · exact s.phase.legible_toJson
  · exact hcapacity
  · exact Json.legible_ofMap _
  · exact .str _
  · exact .str _
  · exact hclaim
  · exact Json.legible_ofText? _
  · exact .str _

/-! ## The law -/

/-- The text that the snapshot is written as. -/
def text (s : Snapshot) : String := s.toJson.render

/-- The snapshot that a text is, if it is one. -/
def ofText? (text : String) : Option Snapshot := (Json.parse? text).bind ofJson?

theorem ofText?_text (s : Snapshot) : ofText? s.text = some s := by
  rw [ofText?, text, Json.parse?_render s.legible_toJson, Option.bind_some, ofJson?_toJson]

theorem text_inj {s t : Snapshot} : s.text = t.text ↔ s = t := by
  refine ⟨fun h => ?_, fun h => by rw [h]⟩
  have hread := ofText?_text s
  rw [h, ofText?_text] at hread
  exact (Option.some.inj hread).symm

/-- The text of a snapshot is read as that snapshot, whatever characters its
texts hold and whatever is absent, and so two snapshots with one text are one.
The phase that is bound and a phase that only goes by the name, an absent
identity and an empty one, no claim and a claim without a name are each
written apart, whatever the rest of the two snapshots is. -/
theorem a_snapshot_is_read_back_from_its_text :
    (∀ s : Snapshot, ofText? s.text = some s) ∧
    (∀ s t : Snapshot, s.text = t.text ↔ s = t) ∧
    (∀ s t : Snapshot,
      text { s with phase := .bound } ≠ text { t with phase := .other "Bound" }) ∧
    (∀ s t : Snapshot, text { s with uid := none } ≠ text { t with uid := some "" }) ∧
    ∀ s t : Snapshot,
      text { s with claimRef := none } ≠ text { t with claimRef := some ⟨"", ""⟩ } := by
  refine ⟨ofText?_text, fun s t => text_inj, fun s t h => ?_, fun s t h => ?_, fun s t h => ?_⟩
  · have hphase := congrArg Snapshot.phase (text_inj.mp h)
    cases hphase
  · have huid := congrArg Snapshot.uid (text_inj.mp h)
    cases huid
  · have hclaim := congrArg Snapshot.claimRef (text_inj.mp h)
    cases hclaim

end Snapshot

end VolumeSync
