-- The phase of a volume as the cluster reports it. Only being bound and
-- being released matter to anyone here; a phase that is not known by
-- name is kept as it came and is neither.

namespace VolumeSync

/-- The phase of a volume. -/
inductive Phase where
  | pending
  | bound
  | released
  | failed
  | unknown
  | other (text : String)
  deriving DecidableEq, Repr, Inhabited

namespace Phase

/-- The phases with a name of their own, in the order of the type. -/
def named : List (String × Phase) :=
  [("Pending", pending), ("Bound", bound), ("Released", released),
   ("Failed", failed), ("Unknown", unknown)]

/-- The phase that goes by a name. -/
def ofName? (name : String) : Option Phase := named.lookup name

/-- Reads what the cluster reports. No report and an empty one mean that
the phase is unknown. -/
def ofReport : Option String → Phase
  | none => unknown
  | some "" => unknown
  | some text => (ofName? text).getD (other text)

/-- The phase in words. -/
def text : Phase → String
  | pending => "Pending"
  | bound => "Bound"
  | released => "Released"
  | failed => "Failed"
  | unknown => "Unknown"
  | other text => text

/-- The volume is bound to a claim. -/
def isBound (p : Phase) : Bool := p == bound

/-- The claim on the volume has gone. -/
def isReleased (p : Phase) : Bool := p == released

@[simp] theorem isBound_iff (p : Phase) : p.isBound = true ↔ p = bound := by simp [isBound]

@[simp] theorem isReleased_iff (p : Phase) : p.isReleased = true ↔ p = released := by
  simp [isReleased]

end Phase

end VolumeSync
