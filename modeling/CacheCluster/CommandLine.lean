import CacheCluster.Node.File
import CacheCluster.Node.Modules
import CacheCluster.Text.Similarity

/-!
# The command line

A node is started with its number and the directory of its files.  Options are known by their
first dash; a double dash ends them.

## Main definitions

* `Invocation`, `UsageError` : what is asked for, and what cannot be made of the arguments.
* `Hint` : what an argument may have been meant to be.
* `Invocation.parse` : the arguments.
* `Exit`, `start` : how a start ends that does not go on to serve.
-/

namespace CacheCluster

/-- What is asked for. -/
inductive Invocation
  | help
  | version
  | run (thisId : NodeId) (directory : String)
  deriving DecidableEq

/-- What may have been meant by an argument: nothing else, a value, or another option. -/
inductive Hint
  | none
  | asValue
  | option (name : String)
  deriving DecidableEq

/-- What cannot be made of the arguments. -/
inductive UsageError
  | unknownArgument (argument : String) (hint : Hint)
  | unexpectedValue (value : String) (option : String)
  | missing (names : List String)
  | invalidId (value : String) (reason : String)
  deriving DecidableEq

/-- The name of the program. -/
def programName : String := "region_admin"

/-- The version of the program. -/
def versionText : String := programName ++ " 0.1.0"

/-- How the program is called, also with options. -/
def usageWith (options : String) : String :=
  "Usage: " ++ programName ++ options ++ " <THIS_ID> <FILES_DIR>"

/-- How the program is called. -/
def usageText : String := usageWith ""

/-- What the program is, and how it is called. -/
def helpText : String :=
  "Region admin node of a cache cluster\n\n" ++ usageText ++ "\n\n" ++
    "Arguments:\n" ++
    "  <THIS_ID>    Id of this node in \x60files/node_config.yaml\x60\n" ++
    "  <FILES_DIR>  Directory holding \x60files/node_config.yaml\x60\n\n" ++
    "Options:\n" ++
    "  -h, --help     Print help\n" ++
    "  -V, --version  Print version"

namespace UsageError

/-- The first line about an error. -/
def headline : UsageError → String
  | .unknownArgument argument _ => "error: unexpected argument '" ++ argument ++ "' found"
  | .unexpectedValue value option =>
    "error: unexpected value '" ++ value ++ "' for '" ++ option ++
      "' found; no more were expected"
  | .missing _ => "error: the following required arguments were not provided:"
  | .invalidId value reason => "error: invalid value '" ++ value ++ "' for '<THIS_ID>': " ++ reason

/-- The lines below the first one. -/
def details : UsageError → String
  | .unknownArgument _ .none => "\n" ++ usageText ++ "\n"
  | .unknownArgument argument .asValue =>
    "\n  tip: to pass '" ++ argument ++ "' as a value, use '-- " ++ argument ++ "'\n\n" ++
      usageText ++ "\n"
  | .unknownArgument _ (.option name) =>
    "\n  tip: a similar argument exists: '" ++ name ++ "'\n\n" ++ usageWith (" " ++ name) ++ "\n"
  | .unexpectedValue .. => "\n" ++ usageText ++ "\n"
  | .missing names =>
    "".intercalate (names.map fun n => "  " ++ n ++ "\n") ++ "\n" ++ usageText ++ "\n"
  | .invalidId .. => ""

/-- All that is written about an error. -/
def text (e : UsageError) : String :=
  e.headline ++ "\n" ++ e.details ++ "\nFor more information, try '--help'.\n"

end UsageError

/-- The number that digits are, behind one that was read before them, below a bound. -/
def readDigits (bound : Nat) (overflow : String) : Nat → List Char → Except String Nat
  | n, [] => .ok n
  | n, c :: rest =>
    let n' := n * 10 + (c.toNat - 0x30)
    if !c.isDigit then .error "invalid digit found in string"
    else if bound ≤ n' then .error overflow
    else readDigits bound overflow n' rest

/-- The integer of 64 bits that a text is, or why it is none. -/
def readInt64 (s : String) : Except String Int :=
  let positive (cs : List Char) : Except String Int :=
    (readDigits 0x8000000000000000 "number too large to fit in target type" 0 cs).map fun n => n
  match s.toList with
  | [] => .error "cannot parse integer from empty string"
  | '-' :: d :: rest =>
    (readDigits 0x8000000000000001 "number too small to fit in target type" 0 (d :: rest)).map
      fun n => -n
  | '+' :: d :: rest => positive (d :: rest)
  | cs => positive cs

/-- The number of a node. -/
def readNodeId (s : String) : Except UsageError NodeId :=
  match readInt64 s with
  | .error reason => .error (.invalidId s reason)
  | .ok n =>
    if 0 ≤ n ∧ n < 0x100000000 then .ok n.toNat.toUInt32
    else .error (.invalidId s s!"{n} is not in 0..=4294967295")

namespace Invocation

/-- The arguments that were taken so far: the number is read only when something comes after it. -/
structure Taken where
  id? : Option String
  directory? : Option String

/-- Checks the number if it was given. -/
def Taken.check (t : Taken) : Except UsageError (Option NodeId) :=
  match t.id? with
  | some s => (readNodeId s).map some
  | none => .ok none

/-- Takes a value. -/
def Taken.take (t : Taken) (s : String) : Except UsageError Taken := do
  match t.id?, t.directory? with
  | none, _ => return { t with id? := some s }
  | some _, none =>
    let _ ← t.check
    return { t with directory? := some s }
  | some _, some _ => throw (.unknownArgument s .none)

/-- What was asked for when there are no more arguments. -/
def Taken.finish (t : Taken) : Except UsageError Invocation := do
  match ← t.check, t.directory? with
  | some id, some directory => return .run id directory
  | some _, none => throw (.missing ["<FILES_DIR>"])
  | none, _ => throw (.missing ["<THIS_ID>", "<FILES_DIR>"])

/-- What an option may have been meant to be. -/
def hintFor (name : String) : Hint :=
  match Text.mostSimilar? name ["help", "version"] with
  | some option => .option ("--" ++ option)
  | none => .asValue

/-- An option in long form, without its dashes. -/
def longOption (t : Taken) (cs : List Char) : Except UsageError Invocation := do
  let name := String.ofList (cs.takeWhile (· != '='))
  let known? : Option Invocation :=
    match name with
    | "help" => some .help
    | "version" => some .version
    | _ => none
  match known?, cs.dropWhile (· != '=') with
  | none, _ => throw (.unknownArgument ("--" ++ name) (hintFor name))
  | some _, _ :: value => throw (.unexpectedValue (String.ofList value) ("--" ++ name))
  | some invocation, [] =>
    let _ ← t.check
    return invocation

/-- An option in short form, without its dash. -/
def shortOption (t : Taken) (c : Char) : Except UsageError Invocation := do
  let known? : Option Invocation :=
    if c = 'h' then some .help else if c = 'V' then some .version else none
  match known? with
  | none => throw (.unknownArgument (String.ofList ['-', c]) .asValue)
  | some invocation =>
    let _ ← t.check
    return invocation

/-- Reads arguments on. -/
def parseFrom (t : Taken) (ended : Bool) : List String → Except UsageError Invocation
  | [] => t.finish
  | s :: rest =>
    if ended then do parseFrom (← t.take s) true rest
    else
      match s.toList with
      | ['-', '-'] => parseFrom t true rest
      | '-' :: '-' :: cs => longOption t cs
      | '-' :: c :: _ => shortOption t c
      | _ => do parseFrom (← t.take s) false rest

/-- What arguments ask for. -/
def parse (arguments : List String) : Except UsageError Invocation :=
  parseFrom ⟨none, none⟩ false arguments

end Invocation

/-! ## Starting a node -/

/-- How a start ends that does not go on to serve. -/
inductive Exit
  | done (output : String)
  | usage (e : UsageError)
  | failed (message : String)

/-- The status that the program leaves. -/
def Exit.code : Exit → Nat
  | .done _ => 0
  | .usage _ => 2
  | .failed _ => 101

/-- What the program says when it cannot use its configuration. -/
def configMessage (directory : String) (e : ConfigError) : String :=
  "read config from " ++ directory ++ " failed: " ++ (Error.config e).text

/-- What the program says when it cannot start its parts. -/
def startMessage (e : Error) : String := "start logical modules error: " ++ e.text

/-- The parts of a node whose endpoint finds its address free, or why they do not start. -/
def Roster.start (r : Roster) (addressIsFree : Bool) : Except String Modules :=
  match r.modules? with
  | none => .error noRoleMessage
  | some modules =>
    if addressIsFree then .ok modules
    else .error (startMessage (.network (.listen .addressInUse)))

/-- Starts a node, given the files by path and whether an address to listen at is free. -/
def start (arguments : List String) (file : String → Except IoError (List UInt8))
    (isFree : SocketAddress → Bool) : Except Exit (Roster × Modules) := do
  match Invocation.parse arguments with
  | .error e => throw (.usage e)
  | .ok .help => throw (.done (helpText ++ "\n"))
  | .ok .version => throw (.done (versionText ++ "\n"))
  | .ok (.run id directory) =>
    match Roster.read id directory (file (filePath directory)) with
    | .error e => throw (.failed (configMessage directory e))
    | .ok r =>
      match r.start (isFree r.listenAddress) with
      | .error message => throw (.failed message)
      | .ok modules => return (r, modules)

end CacheCluster
