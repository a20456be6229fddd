import VolumeSync.SnapshotCache

-- Following the volumes of a cluster: first a complete list, then a watch
-- on what changes. A watch that comes to its end is opened again where it
-- stood; one whose history is lost begins anew with a list. What fails is
-- reported and tried again, for ever.

namespace VolumeSync

/-! ## What the cluster answers -/

/-- A line of an open watch. -/
inductive WatchLine where
  | applied (pv : PersistentVolume)
  | deleted (pv : PersistentVolume)
  | bookmark
  /-- Something that is no news of a volume. -/
  | trouble
  /-- The cluster has forgotten where the watch stands. -/
  | expired

/-- The answer to a request for the list, if it does not fail. -/
abbrev ListAnswer := Option (List PersistentVolume)

/-- The answer to a request for a watch, if it does not fail: lines, and
then the end of the connection. -/
abbrev WatchAnswer := Option (List WatchLine)

/-- The answers to the requests of each kind, in order. Past their end no
request is answered. -/
structure Cluster where
  lists : List ListAnswer
  watches : List WatchAnswer

/-! ## Reading the answers -/

/-- The list of the objects, if every one of them can be read. -/
def ListAnswer.ofObjects (objects : List Json) : ListAnswer :=
  objects.mapM PersistentVolume.ofJson?

namespace WatchLine

/-- The code by which the cluster says that it has forgotten. -/
def goneCode : Int := 410

/-- News of a volume, which must say where in the history it stands. -/
def news (make : PersistentVolume → WatchLine) (object : Json) : WatchLine :=
  match PersistentVolume.ofJson? object with
  | none => .trouble
  | some pv => if pv.resourceVersion.getD "" = "" then .expired else make pv

/-- The largest code of an error. -/
def maxCode : Int := 65535

/-- The members of an object, or those that a list gives in the order of
the known keys. A list gives at least so many and no more than are
known. -/
def membersOf? (known : List String) (least : Nat) : Json → Option PersistentVolume.Members
  | .object members => some members
  | .list items =>
    if least ≤ items.length ∧ items.length ≤ known.length then
      some ((known.map some).zip items)
    else none
  | _ => none

/-- The code of an error. An error has a status, whatever it is, and may
have a message and a reason. -/
def errorCode? (object : Json) : Option Int := do
  let ms ← membersOf? ["status", "message", "reason", "code"] 4 object
  let _ ← PersistentVolume.find? "status" ms >>= Json.text?
  let _ ← PersistentVolume.present? Json.text? "message" ms
  let _ ← PersistentVolume.present? Json.text? "reason" ms
  let .int code ← PersistentVolume.find? "code" ms | none
  guard (0 ≤ code ∧ code ≤ maxCode)
  return code

/-- A mark in the history says of which kind of object it is and where it
stands, and may have annotations. -/
def isMark (object : Json) : Bool :=
  (do
    let ms ← PersistentVolume.members? object
    let _ ← PersistentVolume.find? "apiVersion" ms >>= Json.text?
    let _ ← PersistentVolume.find? "kind" ms >>= Json.text?
    let metadata ← PersistentVolume.find? "metadata" ms
      >>= membersOf? ["resourceVersion", "annotations"] 1
    let _ ← PersistentVolume.find? "resourceVersion" metadata >>= Json.text?
    PersistentVolume.present? Json.map? "annotations" metadata).isSome

/-- Reads a line by what it says it is. -/
def ofReport (kind : String) (object : Json) : WatchLine :=
  match kind with
  | "ADDED" => news .applied object
  | "MODIFIED" => news .applied object
  | "DELETED" => news .deleted object
  | "BOOKMARK" => if isMark object then .bookmark else .trouble
  | "ERROR" => if errorCode? object = some goneCode then .expired else .trouble
  | _ => .trouble

end WatchLine

/-! ## Following -/

/-- The two kinds of request. -/
inductive ClusterRequest where
  | list
  | watch
  deriving DecidableEq, Repr

namespace ClusterRequest

/-- The request in one word. -/
def word : ClusterRequest → String
  | .list => "list"
  | .watch => "watch"

/-- The method of both kinds. -/
def method : String := "GET"

/-- The path of both kinds. -/
def path : String := "/api/v1/persistentvolumes"

end ClusterRequest

/-- What following the cluster gives, one after the other. -/
inductive Sighting where
  | answered (request : ClusterRequest)
  | reported (step : WatchStep)
  | failed

namespace Sighting

/-- The request that was answered. -/
def request? : Sighting → Option ClusterRequest
  | .answered request => some request
  | _ => none

/-- The report on a volume or a list. -/
def step? : Sighting → Option WatchStep
  | .reported step => some step
  | _ => none

/-- It is a failure. -/
def isFailure : Sighting → Bool
  | .failed => true
  | _ => false

/-- What a complete list gives. -/
def ofList (pvs : List PersistentVolume) : List Sighting :=
  pvs.map (fun pv => .reported (.initApply pv)) ++ [.reported .initDone]

/-- What a line gives. -/
def ofLine : WatchLine → List Sighting
  | .applied pv => [.reported (.apply pv)]
  | .deleted pv => [.reported (.delete pv)]
  | .bookmark => []
  | .trouble => [.failed]
  | .expired => [.failed]

end Sighting

namespace Cluster

/-- The lines up to the first that says that the history is lost. -/
def heard : List WatchLine → List WatchLine
  | [] => []
  | .expired :: _ => [.expired]
  | line :: lines => line :: heard lines

/-- The history was lost in these lines. -/
def loses (lines : List WatchLine) : Bool :=
  lines.any fun
    | .expired => true
    | _ => false

/-- What following gives, from where a list is wanted or a watch is. -/
def followFrom (wantsList : Bool) (c : Cluster) : List Sighting :=
  match wantsList, c with
  | true, ⟨[], _⟩ => [.reported .init]
  | true, ⟨none :: lists, watches⟩ =>
    .reported .init :: .answered .list :: .failed :: followFrom true ⟨lists, watches⟩
  | true, ⟨some pvs :: lists, watches⟩ =>
    .reported .init :: .answered .list ::
      (Sighting.ofList pvs ++ followFrom false ⟨lists, watches⟩)
  | false, ⟨_, []⟩ => []
  | false, ⟨lists, none :: watches⟩ =>
    .answered .watch :: .failed :: followFrom false ⟨lists, watches⟩
  | false, ⟨lists, some lines :: watches⟩ =>
    .answered .watch ::
      ((heard lines).flatMap Sighting.ofLine ++ followFrom (loses lines) ⟨lists, watches⟩)
termination_by c.lists.length + c.watches.length

/-- What following the cluster gives until a request stays without an
answer. -/
def follow (c : Cluster) : List Sighting := c.followFrom true

end Cluster

end VolumeSync
