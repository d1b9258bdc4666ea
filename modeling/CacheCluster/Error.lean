import CacheCluster.Duration
import CacheCluster.Region.Request
import CacheCluster.Report

/-!
# Errors

What can go wrong in a node: a request that is refused before anybody is asked, a command that
did not come through, a configuration that cannot be used, and the run-time around them.

## Main definitions

* `DispatchError`, `ConfigError`, `RuntimeError`, `IoError`, `NetworkError` : the causes.
* `Error`, `Error.text`, `Error.message` : all of them, and their texts.
* `Error.wasAttempted` : whether a member may have been asked.
-/

namespace CacheCluster

/-- Numbers that tell nodes apart. -/
abbrev NodeId := UInt32

/-- Why a command did not come through. -/
inductive DispatchError
  | timeout (group : String) (after : Duration)
  | noMembers (group : String)
  | memberExecution (targetPath : String) (report : Report)
  deriving DecidableEq

/-- The text of a dispatch error in diagnostics. -/
def DispatchError.text : DispatchError → String
  | .timeout group after =>
    "Timeout \x7b target_group: " ++ Text.quoted group ++ ", after: " ++ after.text ++ " \x7d"
  | .noMembers group => "NoMembers \x7b target_group: " ++ Text.quoted group ++ " \x7d"
  | .memberExecution path report =>
    "MemberExecution \x7b target_path: " ++ Text.quoted path ++ ", result: " ++ report.text ++
      " \x7d"

/-- Why the operating system refused something. -/
inductive IoError
  | notFound
  | notDirectory
  | isDirectory
  | nameTooLong
  | addressInUse
  | other (reason : String)
  deriving DecidableEq

/-- The text of a refusal in diagnostics. -/
def IoError.text : IoError → String
  | .notFound => "Os \x7b code: 2, kind: NotFound, message: \"No such file or directory\" \x7d"
  | .notDirectory => "Os \x7b code: 20, kind: NotADirectory, message: \"Not a directory\" \x7d"
  | .isDirectory => "Os \x7b code: 21, kind: IsADirectory, message: \"Is a directory\" \x7d"
  | .nameTooLong => "Os \x7b code: 36, kind: InvalidFilename, message: \"File name too long\" \x7d"
  | .addressInUse => "Os \x7b code: 98, kind: AddrInUse, message: \"Address already in use\" \x7d"
  | .other reason => "Custom \x7b kind: Other, error: " ++ Text.quoted reason ++ " \x7d"

/-- Why a configuration cannot be used. -/
inductive ConfigError
  | open (path : String) (reason : IoError)
  | decode (path : String)
  | thisNodeMissing (id : NodeId)
  | noRole (id : NodeId)
  | duplicateMemberName (name : String) (first second : NodeId)
  | noHttpPort (id : NodeId)
  deriving DecidableEq

/-- The text of a configuration error in diagnostics. -/
def ConfigError.text : ConfigError → String
  | .open path reason =>
    "Open \x7b path: " ++ Text.quoted path ++ ", err: " ++ reason.text ++ " \x7d"
  | .decode path => "Decode \x7b path: " ++ Text.quoted path ++ " \x7d"
  | .thisNodeMissing id => s!"ThisNodeMissing({id})"
  | .noRole id => s!"NoRole({id})"
  | .duplicateMemberName name first second =>
    "DuplicateMemberName \x7b name: " ++ Text.quoted name ++
      s!", nodes: ({first}, {second}) \x7d"
  | .noHttpPort id => s!"NoHttpPort({id})"

/-- What can go wrong between the tasks of a node. -/
inductive RuntimeError
  | taskPanicked (context : String)
  | modulesDropped
  deriving DecidableEq

/-- The text of a run-time error in diagnostics. -/
def RuntimeError.text : RuntimeError → String
  | .taskPanicked context => "TokioJoin \x7b context: " ++ Text.quoted context ++ " \x7d"
  | .modulesDropped => "ModulesDropped"

/-- Why the endpoint of a node cannot be served. -/
inductive NetworkError
  | listen (reason : IoError)
  deriving DecidableEq

/-- The text of a network error in diagnostics. -/
def NetworkError.text : NetworkError → String
  | .listen reason => "HttpServe(hyper::Error(Listen, " ++ reason.text ++ "))"

/-- Whatever can go wrong. -/
inductive Error
  | invalid (cause : Region.Invalid)
  | dispatch (cause : DispatchError)
  | network (cause : NetworkError)
  | io (cause : IoError)
  | config (cause : ConfigError)
  | runtime (cause : RuntimeError)
  deriving DecidableEq

namespace Error

/-- The text of an error in diagnostics. -/
def text : Error → String
  | .invalid cause => "MgmtValidationErr(" ++ cause.text ++ ")"
  | .dispatch cause => "MgmtDispatchErr(" ++ cause.text ++ ")"
  | .network cause => "MgmtNetworkErr(" ++ cause.text ++ ")"
  | .io cause => "MgmtIoErr(Io(" ++ cause.text ++ "))"
  | .config cause => "MgmtConfigErr(" ++ cause.text ++ ")"
  | .runtime cause => "MgmtRuntimeErr(" ++ cause.text ++ ")"

/-- The text of an error for its reader. -/
def message : Error → String
  | .invalid cause => "Validation error: " ++ cause.text
  | .dispatch cause => "Dispatch error: " ++ cause.text
  | .network cause => "Network error: " ++ cause.text
  | .io cause => "Io error: Io(" ++ cause.text ++ ")"
  | .config cause => "Config error: " ++ cause.text
  | .runtime cause => "Runtime error: " ++ cause.text

/-- Whether a member may have been asked before the error arose. -/
def wasAttempted : Error → Bool
  | .invalid _ => false
  | _ => true

end Error

end CacheCluster
