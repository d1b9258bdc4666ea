import CacheCluster.CommandLine
import CacheCluster.Http.Transfer
import CacheCluster.Node.Endpoint

/-!
# The program

Starts the node that the arguments name.  Its endpoint answers the requests on standard input,
one after the other, on standard output; other nodes are out of its reach.
-/

namespace CacheCluster

/-- The lines up to an empty one, without their ends. -/
partial def readHead (input : IO.FS.Stream) : IO (List String) := do
  let line ← input.getLine
  let text := String.ofList (line.toList.filter fun c => c != '\r' && c != '\n')
  if text.isEmpty then return [] else return text :: (← readHead input)

/-- A number of bytes, or all that are left. -/
partial def readBytes (input : IO.FS.Stream) (n : Nat) : IO (List UInt8) := do
  if n = 0 then return []
  let chunk ← input.read n.toUSize
  if chunk.isEmpty then return []
  return chunk.toList ++ (← readBytes input (n - chunk.size))

/-- Answers requests until there are no more. -/
partial def serveStream (e : Endpoint Unit) (input output : IO.FS.Stream) (s : Served Unit) :
    IO Unit := do
  match Http.Request.ofHead? (← readHead input) with
  | none => return
  | some q =>
    let body ← readBytes input q.bodyLength
    let (response, s') := e.serve { q with body } s
    output.write ⟨response.render.toArray⟩
    output.flush
    serveStream e input output s'

/-- Why the operating system refused to read a file.  The codes of its reasons come with either
sign. -/
def refusal : IO.Error → IoError
  | .noFileOrDirectory .. => .notFound
  | .inappropriateType _ code _ =>
    if code = 21 ∨ code = -21 then .isDirectory else .notDirectory
  | e@(.invalidArgument _ code _) =>
    if code = 36 ∨ code = -36 then .nameTooLong else .other (toString e)
  | e => .other (toString e)

/-- The bytes of a file, or why there are none. -/
def readFile (path : String) : IO (Except IoError (List UInt8)) := do
  try
    return .ok (← IO.FS.readBinFile path).toList
  catch e => return .error (refusal e)

/-- The file that the arguments name. -/
def filesOf (arguments : List String) : IO (String → Except IoError (List UInt8)) := do
  match Invocation.parse arguments with
  | .ok (.run _ directory) =>
    let file ← readFile (filePath directory)
    return fun _ => file
  | _ => return fun _ => .error .notFound

/-- Says how a start ended. -/
def report (exit : Exit) : IO Unit := do
  match exit with
  | .done output => (← IO.getStdout).putStr output
  | .usage e => (← IO.getStderr).putStr e.text
  | .failed message => (← IO.getStderr).putStrLn message

end CacheCluster

open CacheCluster in
/-- Starts the node that the arguments name. -/
def main (arguments : List String) : IO UInt32 := do
  match start arguments (← filesOf arguments) fun _ => true with
  | .error exit =>
    CacheCluster.report exit
    return exit.code.toUInt32
  | .ok (roster, modules) =>
    let e : Endpoint Unit :=
      ⟨modules.locator?.map fun m => (m, Engine.http roster Transport.unreachable)⟩
    serveStream e (← IO.getStdin) (← IO.getStdout) ⟨(), modules.member?⟩
    return 0
