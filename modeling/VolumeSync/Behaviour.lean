import VolumeSync.Failure

-- How a provider behaves toward one task: what becomes of its request
-- for a session, of its metadata call and of its tag call.

namespace VolumeSync

/-- What becomes of a call. -/
inductive Act where
  | succeed
  | fail (failure : Failure)
  | panic (payload : Panic)
  | hang
  deriving DecidableEq, Repr

/-- What becomes of the request for a session. -/
inductive Grant where
  | granted
  | unavailable
  | fail (failure : Failure)
  | panic (payload : Panic)
  | hang
  deriving DecidableEq, Repr

/-- What becomes of everything that one session is asked for. -/
structure Behaviour where
  session : Grant
  metadata : Act
  tags : Act
  deriving DecidableEq, Repr

/-- Everything succeeds. -/
def Behaviour.smooth : Behaviour := ⟨.granted, .succeed, .succeed⟩

/-- The behaviour of every session, by the number of its request. Past
the end of the list everything succeeds. -/
abbrev Script := List Behaviour

/-- The behaviour of the session with the number. -/
def Script.play (script : Script) (session : Nat) : Behaviour := script.getD session .smooth

end VolumeSync
