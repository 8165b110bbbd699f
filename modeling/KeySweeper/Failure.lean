/-!
# Failures and their texts

What can go wrong, as causes: a store call can fail, a sweep reports failures of its steps, and the
admin interface refuses requests. The text of each cause is made in one place, and a cause that
wraps another one repeats the text of the inner cause behind its own.
-/

namespace KeySweeper

/-- The kinds of error that a key-value server or its client distinguishes. -/
inductive ServerErrorKind where
  /-- The server refused a command. -/
  | response
  /-- A transaction was discarded. -/
  | execAbort
  /-- The server is still loading its data. -/
  | busyLoading
  /-- A script is not known. -/
  | noScript
  /-- The key lives on another server. -/
  | moved
  /-- The key is being moved to another server. -/
  | ask
  /-- The command should be tried again. -/
  | tryAgain
  /-- The cluster does not serve requests. -/
  | clusterDown
  /-- The keys of one command live on different servers. -/
  | crossSlot
  /-- The primary server cannot be reached. -/
  | masterDown
  /-- The server accepts no writes. -/
  | readOnly
  /-- No script is running. -/
  | notBusy
  /-- There is no subscription that could be ended. -/
  | noSub
  /-- An error word that is not one of the usual ones. -/
  | extension
  /-- A reply does not have the expected form. -/
  | type
  /-- The address of the server cannot be used. -/
  | invalidClientConfig
  /-- The client itself failed. -/
  | client
deriving DecidableEq, Repr

namespace ServerErrorKind

/-- The name of the kind as it is shown to operators. -/
def name : ServerErrorKind → String
  | .response => "ResponseError"
  | .execAbort => "ExecAbortError"
  | .busyLoading => "BusyLoadingError"
  | .noScript => "NoScriptError"
  | .moved => "Moved"
  | .ask => "Ask"
  | .tryAgain => "TryAgain"
  | .clusterDown => "ClusterDown"
  | .crossSlot => "CrossSlot"
  | .masterDown => "MasterDown"
  | .readOnly => "ReadOnly"
  | .notBusy => "NotBusy"
  | .noSub => "NoSub"
  | .extension => "ExtensionError"
  | .type => "TypeError"
  | .invalidClientConfig => "InvalidClientConfig"
  | .client => "ClientError"

end ServerErrorKind

/-- An error of the key-value server or of the connection to it. -/
structure ServerError where
  /-- The kind of the error. -/
  kind : ServerErrorKind
  /-- The text of the error. -/
  text : String
deriving DecidableEq, Repr

namespace ServerError

/-- An error with a description and a detail. -/
def describe (kind : ServerErrorKind) (description detail : String) : ServerError where
  kind := kind
  text := description ++ " - " ++ kind.name ++ ": " ++ detail

end ServerError

/-- Why a store call failed. -/
inductive StoreError where
  /-- The server answered with an error. -/
  | server (cause : ServerError)
  /-- The store could not serve the request. -/
  | unavailable (reason : String)
deriving DecidableEq, Repr

/-- The text of a failed store call. -/
def StoreError.message : StoreError → String
  | .server cause => "redis error: " ++ cause.text
  | .unavailable reason => "store unavailable: " ++ reason

/-- The texts of the causes below a failed store call. -/
def StoreError.causes : StoreError → List String
  | .server cause => [cause.text]
  | .unavailable _ => []

/-- Why a step of a sweep failed. Only a failed guard check is ever an answer of a sweep; the others
are logged. -/
inductive SweepError where
  /-- It could not be found out whether a sweep is running. -/
  | guard (cause : StoreError)
  /-- The keyspace could not be read further. -/
  | scan (cause : StoreError)
  /-- The remaining lifetime of a key could not be read. -/
  | inspect (key : String) (cause : StoreError)
  /-- A batch of this many keys could not be deleted. -/
  | delete (keys : Nat) (cause : StoreError)
deriving DecidableEq, Repr

namespace SweepError

/-- The failed store call behind the error. -/
def cause : SweepError → StoreError
  | .guard cause => cause
  | .scan cause => cause
  | .inspect _ cause => cause
  | .delete _ cause => cause

/-- The text of the error, which ends with the text of its cause. -/
def message : SweepError → String
  | .guard cause => "failed to check run guard: " ++ cause.message
  | .scan cause => "failed to scan keys: " ++ cause.message
  | .inspect key cause => "failed to inspect TTL of " ++ key ++ ": " ++ cause.message
  | .delete keys cause =>
    "failed to delete batch of " ++ toString keys ++ " keys: " ++ cause.message

/-- The texts of the causes below the error. -/
def causes (e : SweepError) : List String := e.cause.message :: e.cause.causes

end SweepError

/-- Why the admin interface refused a request. -/
inductive RequestError where
  /-- There is nothing to show. -/
  | notFound (what : String)
  /-- The request does not fit the present state. -/
  | conflict (what : String)
deriving DecidableEq, Repr

namespace RequestError

/-- The text of the refusal. -/
def message : RequestError → String
  | .notFound what => "Not found: " ++ what
  | .conflict what => "Conflict: " ++ what

/-- The status code of the refusal. -/
def status : RequestError → Nat
  | .notFound _ => 404
  | .conflict _ => 409

/-- The explanation sent to the client, without the heading of the text. -/
def explanation : RequestError → String
  | .notFound what => what
  | .conflict what => what

end RequestError

end KeySweeper
