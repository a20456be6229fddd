import VolumeSync.Descriptor
import VolumeSync.Json

-- Descriptors as JSON: the body that the provider is sent, and its
-- strict reading.

namespace VolumeSync.Descriptor

/-- The fields of a descriptor in their order. -/
def fieldNames : List String :=
  ["volume_id", "provider", "volume_type", "crn", "tags", "capacity", "iops", "attributes"]

/-- A descriptor as an object; an absent capacity or rate is left out. -/
def toJson (d : Descriptor) : Json :=
  .record
    ([("volume_id", .ofText d.volumeId),
      ("provider", .ofText d.provider),
      ("volume_type", .ofText d.volumeType),
      ("crn", .ofText d.crn),
      ("tags", .ofTexts d.tags)]
    ++ (d.capacity.map fun n => ("capacity", Json.ofWord n)).toList
    ++ (d.iops.map fun s => ("iops", Json.ofText s)).toList
    ++ [("attributes", .ofMap d.attributes)])

/-- Reads a descriptor. -/
def ofJson? (value : Json) : Option Descriptor := do
  let [volumeId, provider, volumeType, crn, tags, capacity, iops, attributes] ←
    value.fields? fieldNames | none
  return {
    volumeId := ← Json.required? Json.text? volumeId
    provider := ← Json.required? Json.text? provider
    volumeType := ← Json.required? Json.text? volumeType
    crn := ← Json.required? Json.text? crn
    tags := ← Json.required? Json.texts? tags
    capacity := ← Json.optional? Json.word? capacity
    iops := ← Json.optional? Json.text? iops
    attributes := ← Json.required? Json.map? attributes }

end VolumeSync.Descriptor
