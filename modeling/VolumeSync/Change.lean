import VolumeSync.Snapshot

-- A volume before and after, and the two questions asked about the pair:
-- does the provider have to hear of it, and has the volume bound just now.

namespace VolumeSync

/-- A volume as it was seen last and as it is seen now. At the first
sight there is nothing before. -/
structure Change where
  old : Option Snapshot
  new : Snapshot
  deriving DecidableEq

/-- What a change is worth. -/
inductive Decision where
  | skip
  | process
  deriving DecidableEq, Repr

namespace Change

/-- Phase, capacity and rate of operations are the same. Nothing else is
compared; absent capacity is zero bytes, while an absent rate differs
from an empty one. -/
def Alike (a b : Snapshot) : Prop := a.phase = b.phase ∧ a.bytes = b.bytes ∧ a.iops? = b.iops?

instance (a b : Snapshot) : Decidable (Alike a b) := inferInstanceAs (Decidable (_ ∧ _))

/-- A change is skipped if the volume was seen before and is alike. -/
def decision (c : Change) : Decision :=
  match c.old with
  | none => .process
  | some old => if Alike old c.new then .skip else .process

/-- The change has to reach the provider. -/
def isMaterial (c : Change) : Bool := c.decision == .process

/-- The volume was seen unbound and is bound now. -/
def isFirstBind (c : Change) : Bool :=
  match c.old with
  | none => false
  | some old => !old.phase.isBound && c.new.phase.isBound

end Change

end VolumeSync
