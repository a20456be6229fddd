import VolumeSync.Effect
import VolumeSync.Url.Target

-- Notifications on their way to the cluster's event interface. One that
-- says the same of the same volume as an earlier one does not become an
-- event of its own: the earlier event is counted once more and keeps the
-- note that it began with. To be counted an event is addressed by its
-- name, and an event whose name fits into no address is not counted.

namespace VolumeSync

/-! ## Publications -/

/-- A request to the event interface. The count is there if the event
exists already. -/
structure Publication where
  notice : Notice
  count : Option Nat
  deriving DecidableEq

namespace Publication

/-- The part of the watcher that events come from. -/
def controller : String := "pv-tag-watcher"

/-- The namespace of events about objects that have none. -/
def namespaceName : String := "default"

/-- An event is made by one method and counted up by another. -/
def method (p : Publication) : String := if p.count.isSome then "PATCH" else "POST"

/-- The instance that events come from: the name of the pod if it is
known, else the same as the part. -/
def instanceName (pod : Option String) : String := pod.getD controller

/-- Where the events of the namespace are. -/
def collection : List Char :=
  ("/apis/events.k8s.io/v1/namespaces/" ++ namespaceName ++ "/events").toList

/-- The time at which an event is made, in hexadecimal. Every such time has
sixteen digits, and which they are makes no difference to an address. -/
def stamp : List Char := List.replicate 16 '0'

/-- The name of the event about an object. -/
def eventName (resource : ObjectRef) : List Char := resource.name.toList ++ '.' :: stamp

/-- The target of the request that counts an event. -/
def target (p : Publication) : List Char :=
  collection ++ '/' :: (eventName p.notice.resource ++ ['?'])

/-- The request can be made. Making an event names no event yet. -/
def isMakeable (p : Publication) : Bool := p.count.isNone || Url.Target.isTarget p.target

end Publication

/-! ## Series -/

/-- An event that exists, and how often it has been published. -/
structure Series where
  first : Notice
  times : Nat
  deriving DecidableEq

/-- The events that exist. -/
abbrev EventLog := List Series

namespace EventLog

/-- The two notifications say the same but for the note. -/
def isSame (a b : Notice) : Bool := a.severity == b.severity && a.resource == b.resource

/-- The event that the notification belongs to. -/
def find? (log : EventLog) (notice : Notice) : Option Series :=
  List.find? (fun s => isSame s.first notice) log

/-- The request that the notification makes. -/
def publication (log : EventLog) (notice : Notice) : Publication :=
  match log.find? notice with
  | none => ⟨notice, none⟩
  | some s => ⟨s.first, some (s.times + 1)⟩

/-- The events after the request has been granted. -/
def granted (log : EventLog) (notice : Notice) : EventLog :=
  match log.find? notice with
  | none => log ++ [⟨notice, 1⟩]
  | some _ => log.map fun s => if isSame s.first notice then { s with times := s.times + 1 } else s

/-- The statuses from which on an answer is a failure. -/
def isFailure (status : Nat) : Bool := 400 ≤ status

/-- What came of a notification: the request it made, if one could be made,
and whether it is an event now. -/
structure Attempt where
  notice : Notice
  request : Option Publication
  recorded : Bool
  deriving DecidableEq

/-- What comes of the notifications. The statuses answer the requests in
order; past their end all are granted. -/
def publish (log : EventLog) : List Notice → List Nat → List Attempt
  | [], _ => []
  | notice :: notices, statuses =>
    let request := log.publication notice
    if request.isMakeable then
      let fails := statuses.head?.any isFailure
      let next := if fails then log else log.granted notice
      ⟨notice, some request, !fails⟩ :: next.publish notices statuses.tail
    else ⟨notice, none, false⟩ :: log.publish notices statuses

end EventLog

end VolumeSync
