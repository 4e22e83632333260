import Renaming.Command.Replay
import Renaming.Http.Message
import Std.Async.DNS
import Std.Async.TCP

/-!
# The program

Gives a command the files it needs and the replies of the server, and carries out the changes it
made. Only plain HTTP is spoken; a server that needs more is not reached.
-/

namespace Renaming.Program

open Std.Async Std.Net

/-! ## Files -/

def pathOf (place : List String) : String := "/" ++ String.intercalate "/" place

/-- What stands at a place in a directory. -/
def nodeAt (place : List String) : IO (Option Node) := do
  try
    return some (.file (← IO.FS.readBinFile (pathOf place)))
  catch
    | .inappropriateType _ _ _ => return some .directory
    | _ => return none

/-- The disk as far as some places show it. -/
def readDisk (here : List String) (places : List (List String)) : IO Disk := do
  let run ← IO.rand 1000 4000000
  places.foldlM (fun d place => do
    if d.get? place.dropLast != some .directory then return d
    match ← nodeAt place with
    | some node => return d.put place node
    | none => return d) (Disk.empty here run)

def errorOf (e : IO.Error) : FileError := .system (toString e)

/-- Does what a step does, or says what went wrong with it. -/
def attemptStep (step : Files.Step) (work : IO Unit) :
    ExceptT (Files.Step × FileError) IO Unit := do
  match ← work.toBaseIO with
  | .ok () => return
  | .error e => throw (step, errorOf e)

/-- Writes a file under another name and moves it to its place. -/
def writeFile (c : Command) (d : Disk) (place : List String) (content : ByteArray) :
    ExceptT (Files.Step × FileError) IO Unit := do
  let path := pathOf place
  if c.isBackup d.here place then attemptStep .copy (IO.FS.writeBinFile path content)
  else
    let temporary := Files.temporaryPath path d.run
    attemptStep .createParent (IO.FS.createDirAll (Files.parent path))
    attemptStep .write (IO.FS.writeBinFile temporary content)
    attemptStep .rename (IO.FS.rename temporary path)

/-! ## The server -/

/-- The addresses of a host. -/
def addressesOf (url : Url) : Async (Array IPAddr) := do
  match url.host? with
  | some (.domain name) => DNS.getAddrInfo name "" none
  | some (.ipv4 n) =>
    return #[.v4 (.ofParts (n / Nat.pow 256 3).toUInt8 (n / Nat.pow 256 2).toUInt8
      (n / 256).toUInt8 n.toUInt8)]
  | some (.ipv6 [a, b, c, d, e, f, g, h]) =>
    return #[.v6 (.ofParts a.toUInt16 b.toUInt16 c.toUInt16 d.toUInt16 e.toUInt16 f.toUInt16
      g.toUInt16 h.toUInt16)]
  | _ => return #[]

/-- All that comes until the connection ends. -/
partial def receiveAll (socket : TCP.Socket.Client) (received : ByteArray) : Async ByteArray := do
  match ← socket.recv? 65536 with
  | some bytes => receiveAll socket (received ++ bytes)
  | none => return received

def exchange (post : Http.Post) (address : IPAddr) : Async ByteArray := do
  let port := ((post.url.authority.bind (·.port)).getD 80).toUInt16
  let socket ← TCP.Socket.Client.mk
  socket.connect (match address with
    | .v4 address => .v4 ⟨address, port⟩
    | .v6 address => .v6 ⟨address, port⟩)
  socket.send (Http.requestText post).toUTF8
  receiveAll socket .empty

/-- Posts a request to the first address of its host. -/
def deliver (post : Http.Post) : IO Http.Delivery := do
  if post.url.scheme != "http" then return .undelivered
  try
    match (← (addressesOf post.url).block)[0]? with
    | some address =>
      return (Http.delivery? (← (exchange post address).block)).getD .undelivered
    | none => return .undelivered
  catch _ => return .undelivered

/-! ## Runs -/

/-- Repeats a run until nothing is open, and carries out its changes. -/
partial def perform (e : Environment) (c : Command) (d : Disk) (replies : List Http.Delivery) :
    IO Printout := do
  let a := c.attempt e d replies
  match a.open? with
  | some post => perform e c d (replies ++ [← deliver post])
  | none =>
    let work := (Command.changes d a.disk).forM fun (place, content) => writeFile c d place content
    match ← work.run with
    | .ok () => return a.printout
    | .error (step, error) =>
      if (d.incident? step).isSome then return a.printout
      else perform e c (Command.withIncident d step error) replies

/-- The directory for settings: its own variable if that is an absolute path, else one in the home
directory. -/
def settingsDirectory : IO (Option String) := do
  match ← IO.getEnv "XDG_CONFIG_HOME" with
  | some path => if Files.isAbsolute path then return some path
  | none => pure ()
  return (← IO.getEnv "HOME").map (Files.join · ".config")

def readEnvironment : IO Environment := do
  return ⟨← IO.getEnv "DECOMP_RENAME_SERVER", ← IO.getEnv "DECOMP_RENAME_MODEL",
    ← settingsDirectory⟩

def usageText : String :=
  "Usage: decomp-rename [--config PATH] [--server URL] [--model NAME] <COMMAND>\n\n" ++
  "Commands:\n" ++
  "  suggest FILE [-k KIND] [-n NAME] [-y] [--save]  Ask for better names\n" ++
  "  analyze FILE [-y] [--save]                      Review the naming of a module\n" ++
  "  render FILE                                     Print the decompiled view\n" ++
  "  config show | set KEY VALUE | path              Show or change settings"

/-- Prints what arguments ask for instead of a command, or that they are wrong. -/
def showUsage (u : Command.Usage) : IO UInt32 := do
  match u with
  | .help => IO.println usageText
  | .version => IO.println "decomp-rename 0.1.0"
  | .invalidValue why => IO.eprintln ("error: " ++ why)
  | _ => IO.eprintln usageText
  return u.exitCode.toUInt32

def display (p : Printout) : IO UInt32 := do
  IO.print p.text
  p.warnings.forM fun warning => IO.eprintln ("warning: " ++ warning)
  match p.errors with
  | [] => pure ()
  | first :: causes =>
    IO.eprintln ("Error: " ++ first)
    causes.forM fun cause => IO.eprintln ("  " ++ cause)
  return p.exitCode.toUInt32

def start (arguments : List String) : IO UInt32 := do
  let e ← readEnvironment
  match Command.ofArguments e arguments with
  | .error u => showUsage u
  | .ok c =>
    let here := Files.steps (toString (← IO.currentDir))
    let d ← readDisk here (c.allPlaces e here)
    display (← perform e c d [])

end Renaming.Program

def main (arguments : List String) : IO UInt32 := Renaming.Program.start arguments
