import VolumeSync.Descriptor.Json
import VolumeSync.Json.Reader
import VolumeSync.Json.Writer
import VolumeSync.Proofs.JsonRecords

-- Descriptors as text: the body of a request. The capacity and the rate are
-- left out of it when they are absent, and are absent when they are missing
-- in it, so no two descriptors have one text.

namespace VolumeSync.Descriptor

/-! ## Fields -/

/-- The fields that a descriptor is written with. -/
def fields (d : Descriptor) : List (String × Json) :=
  [("volume_id", .ofText d.volumeId),
    ("provider", .ofText d.provider),
    ("volume_type", .ofText d.volumeType),
    ("crn", .ofText d.crn),
    ("tags", .ofTexts d.tags)]
  ++ (d.capacity.map fun n => ("capacity", Json.ofWord n)).toList
  ++ (d.iops.map fun s => ("iops", Json.ofText s)).toList
  ++ [("attributes", .ofMap d.attributes)]

theorem toJson_eq_record (d : Descriptor) : d.toJson = .record d.fields := rfl

theorem nodup_fields (d : Descriptor) : (d.fields.map (·.1)).Nodup := by
  obtain ⟨_, _, _, _, _, capacity, iops, _⟩ := d
  have hnames : fieldNames.Nodup := by decide
  cases capacity with
  | none =>
    cases iops with
    | none => exact hnames.filter fun name => name != "capacity" && name != "iops"
    | some _ => exact hnames.filter fun name => name != "capacity"
  | some _ =>
    cases iops with
    | none => exact hnames.filter fun name => name != "iops"
    | some _ => exact hnames

/-- An absent capacity has no field, nor has an absent rate. -/
theorem lookup_fields (d : Descriptor) :
    fieldNames.map (fun key => d.fields.lookup key) =
      [some (.ofText d.volumeId), some (.ofText d.provider), some (.ofText d.volumeType),
        some (.ofText d.crn), some (.ofTexts d.tags), d.capacity.map .ofWord, d.iops.map .ofText,
        some (.ofMap d.attributes)] := by
  obtain ⟨_, _, _, _, _, capacity, iops, _⟩ := d
  cases capacity with
  | none => cases iops <;> rfl
  | some _ => cases iops <;> rfl

/-! ## Reading back -/

theorem ofJson?_toJson (d : Descriptor) : ofJson? d.toJson = some d := by
  have hcapacity : Json.optional? Json.word? (d.capacity.map .ofWord) = some d.capacity := by
    rcases d.capacity with _ | n
    · rfl
    · simp [Json.optional?, Json.nullable?, Json.ofWord, Json.word?, word64?_toInt]
  have hiops : Json.optional? Json.text? (d.iops.map .ofText) = some d.iops := by
    rcases d.iops with _ | s
    · rfl
    · rfl
  rw [ofJson?, toJson_eq_record, Json.fields?_record d.nodup_fields, lookup_fields]
  simp [Json.required?, hcapacity, hiops]

theorem legible_toJson (d : Descriptor) : d.toJson.Legible := by
  refine Json.legible_record fun f hf => ?_
  simp only [List.mem_append, List.mem_cons, List.not_mem_nil, or_false, Option.mem_toList,
    Option.map_eq_some_iff] at hf
  rcases hf with (((rfl | rfl | rfl | rfl | rfl) | ⟨n, _, rfl⟩) | ⟨s, _, rfl⟩) | rfl
  · exact .str _
  · exact .str _
  · exact .str _
  · exact .str _
  · exact Json.legible_ofTexts _
  · exact .int _
  · exact .str _
  · exact Json.legible_ofMap _

/-- The text that the descriptor is written as. -/
def text (d : Descriptor) : String := d.toJson.render

/-- The descriptor that a text is, if it is one. -/
def ofText? (text : String) : Option Descriptor := (Json.parse? text).bind ofJson?

theorem parse?_text (d : Descriptor) : Json.parse? d.text = some (.record d.fields) :=
  Json.parse?_render d.legible_toJson

theorem ofText?_text (d : Descriptor) : ofText? d.text = some d := by
  rw [ofText?, parse?_text, Option.bind_some, ← toJson_eq_record, ofJson?_toJson]

theorem text_inj {d e : Descriptor} : d.text = e.text ↔ d = e := by
  refine ⟨fun h => ?_, fun h => by rw [h]⟩
  have hread := ofText?_text d
  rw [h, ofText?_text] at hread
  exact (Option.some.inj hread).symm

/-! ## What is left out -/

/-- The text is an object that says nothing under the key. -/
def LeavesOut (key text : String) : Prop :=
  ∃ members, Json.parse? text = some (.object members) ∧ Json.valuesOf key members = []

theorem leavesOut_text {key : String} {d : Descriptor} :
    LeavesOut key d.text ↔ d.fields.lookup key = none := by
  have hvalues := Json.valuesOf_record d.nodup_fields key
  constructor
  · rintro ⟨members, hread, hnone⟩
    rw [parse?_text] at hread
    cases hread
    rw [hvalues] at hnone
    exact Option.toList_eq_nil_iff.mp hnone
  · intro hnone
    exact ⟨_, d.parse?_text, by rw [hvalues, hnone]; rfl⟩

theorem leavesOut_capacity {d : Descriptor} : LeavesOut "capacity" d.text ↔ d.capacity = none := by
  have hlookup : d.fields.lookup "capacity" = d.capacity.map .ofWord :=
    congrArg (·.getD 5 none) d.lookup_fields
  rw [leavesOut_text, hlookup, Option.map_eq_none_iff]

theorem leavesOut_iops {d : Descriptor} : LeavesOut "iops" d.text ↔ d.iops = none := by
  have hlookup : d.fields.lookup "iops" = d.iops.map .ofText :=
    congrArg (·.getD 6 none) d.lookup_fields
  rw [leavesOut_text, hlookup, Option.map_eq_none_iff]

end VolumeSync.Descriptor
