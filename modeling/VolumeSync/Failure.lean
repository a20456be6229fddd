-- What can go wrong in a call that somebody else answers, and how it is
-- put into words: errors with a chain of causes, and panics.

namespace VolumeSync

/-! ## Errors with causes -/

/-- An error and what caused it, outermost first. -/
structure Failure where
  outermost : String
  causes : List String
  deriving DecidableEq, Repr

namespace Failure

/-- An error without a cause. -/
def plain (text : String) : Failure := ⟨text, []⟩

/-- The error in short: the outermost text alone. -/
def summary (f : Failure) : String := f.outermost

/-- A number with blanks before it, to a width of five. -/
def indexColumn (n : Nat) : String :=
  let digits := toString n
  String.ofList (List.replicate (5 - digits.length) ' ') ++ digits

/-- A cause with its first line after the lead and every further line
after the indent. -/
def indented (lead indent : String) (cause : String) : String :=
  lead ++ String.intercalate ("\n" ++ indent)
    ((cause.toList.splitOn '\n').map String.ofList)

/-- The causes in full, numbered if there is more than one. -/
def causeLines : List String → List String
  | [cause] => [indented "    " "    " cause]
  | causes =>
    (causes.zipIdx).map fun (cause, n) => indented (indexColumn n ++ ": ") "       " cause

/-- The error in full: the outermost text, and the causes below it. -/
def report (f : Failure) : String :=
  if f.causes.isEmpty then f.outermost
  else f.outermost ++ "\n\nCaused by:\n" ++ String.intercalate "\n" (causeLines f.causes)

end Failure

/-! ## Panics -/

/-- What a panic carries: a text, or something that is no text. -/
inductive Panic where
  | text (message : String)
  | other
  deriving DecidableEq, Repr

/-- The panic in words. -/
def Panic.message : Panic → String
  | .text message => message
  | .other => "unknown panic"

/-! ## Errors of the watcher itself -/

/-- An error of the watcher, by the part that it comes from. -/
inductive WatcherError where
  | config (detail : String)
  | session (detail : String)
  | provider (detail : String)
  deriving DecidableEq, Repr

/-- The error in words. -/
def WatcherError.message : WatcherError → String
  | .config detail => "Configuration error: " ++ detail
  | .session detail => "Provider session error: " ++ detail
  | .provider detail => "Provider error: " ++ detail

end VolumeSync
