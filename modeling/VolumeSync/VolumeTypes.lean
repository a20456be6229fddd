import VolumeSync.Keyed

-- Which volume type the provider knows a driver's volumes by.

namespace VolumeSync

/-- The volume type of each driver. -/
structure VolumeTypes where
  types : Keyed String
  deriving DecidableEq

namespace VolumeTypes

/-- No driver is known. -/
def empty : VolumeTypes := ⟨.empty⟩

/-- The types with one more driver; a second entry for a driver replaces
the first. -/
def register (t : VolumeTypes) (driver volumeType : String) : VolumeTypes :=
  ⟨t.types.insert driver volumeType⟩

/-- Only this driver is known. -/
def single (driver volumeType : String) : VolumeTypes := empty.register driver volumeType

/-- The type of a driver's volumes, empty for a driver that is not known
and for no driver. -/
def typeOf (t : VolumeTypes) (driver : Option String) : String :=
  (driver.bind t.types.find?).getD ""

@[simp] theorem typeOf_none (t : VolumeTypes) : t.typeOf none = "" := rfl

@[simp] theorem typeOf_register (t : VolumeTypes) (driver volumeType d : String) :
    (t.register driver volumeType).typeOf (some d) =
      if driver = d then volumeType else t.typeOf (some d) := by
  simp only [typeOf, register, Option.bind_some, Keyed.find?_insert]
  split <;> rfl

end VolumeTypes

end VolumeSync
