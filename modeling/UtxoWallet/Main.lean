import Std.Async.DNS
import Std.Async.TCP
import UtxoWallet.CommandLine.Run
import UtxoWallet.Node.Http
import UtxoWallet.Node.Message

/-! # The command line program -/

open UtxoWallet Curve

namespace UtxoWallet.Main

/-! ## Files -/

def fileFault : IO.Error → Files.Fault
  | .noFileOrDirectory .. => .notFound
  | .alreadyExists .. => .alreadyExists
  | .inappropriateType _ 21 _ => .isDirectory
  | .inappropriateType _ 20 _ => .notDirectory
  | .invalidArgument _ 36 _ => .nameTooLong
  | error => .other (toString error)

def tried {α : Type} (act : IO α) : IO (Except Files.Fault α) := do
  return (← act.toBaseIO).mapError fileFault

/-- Does something with a path, if the system takes it. -/
def onPath {α : Type} (path : String) (act : IO α) : IO (Except Files.Fault α) :=
  match Files.Path.fault? path with
  | some fault => return .error fault
  | none => tried act

/-- Only a directory has a dot in it, and has it from the start. -/
def isDirectory (path : String) : IO Bool := do
  match ← onPath path (IO.FS.createDir (path ++ "/.")) with
  | .error .alreadyExists => return true
  | _ => return false

/-- A failure to make a directory is none if it is there. -/
def orThere (path : String) : Except Files.Fault Unit → IO (Except Files.Fault Unit)
  | .ok () => return .ok ()
  | .error fault => do
    if ← isDirectory path then return .ok () else return .error fault

/-- The first of these directories. Where something above it is missing, that is made first. -/
def makeFirst : List String → IO (Except Files.Fault Unit)
  | [] => return .error .notFound
  | path :: above => do
    if path.isEmpty then return .ok ()
    match ← onPath path (IO.FS.createDir path) with
    | .error .notFound =>
      match ← makeFirst above with
      | .error fault => return .error fault
      | .ok () => orThere path (← onPath path (IO.FS.createDir path))
    | made => orThere path made

def access (bits : Nat) : IO.AccessRight where
  read := bits.testBit 2
  write := bits.testBit 1
  execution := bits.testBit 0

def rights (mode : Nat) : IO.FileRight where
  user := access (mode / 64)
  group := access (mode / 8 % 8)
  other := access (mode % 8)

def createFile (path : String) (mode : Nat) (content : ByteArray) : IO Unit := do
  let handle ← IO.FS.Handle.mk path .writeNew
  IO.setAccessRights path (rights mode)
  handle.write content

def file : (call : Files.Call) → IO call.Answer
  | .read path => onPath path (IO.FS.readBinFile path)
  | .makeDirectories path => makeFirst (path :: Files.Path.ancestors path)
  | .create path mode content => onPath path (createFile path mode content)
  | .append path content => onPath path do (← IO.FS.Handle.mk path .append).write content
  | .remove path => onPath path (IO.FS.removeFile path)

/-! ## Node -/

open Std.Net in
def socketAddress (number : UInt16) : IPAddr → SocketAddress
  | .v4 address => .v4 ⟨address, number⟩
  | .v6 address => .v6 ⟨address, number⟩

open Std.Async in
partial def receive (client : TCP.Socket.Client) (soFar : ByteArray) : Async ByteArray := do
  match ← client.recv? 65536 with
  | some bytes => receive client (soFar ++ bytes)
  | none => return soFar

open Std.Async in
def exchange (request : Node.Request) (peer : Node.Peer) : Async ByteArray := do
  let addresses ← DNS.getAddrInfo peer.lookupName (toString peer.portNumber)
  match addresses.toList with
  | [] => throw (IO.userError "unknown host")
  | address :: _ => do
    let client ← TCP.Socket.Client.mk
    client.connect (socketAddress peer.portNumber address)
    client.send request.message
    receive client ByteArray.empty

open Std.Async in
def outcome (request : Node.Request) : IO Node.Outcome := do
  match Node.Peer.ofUrl? request.url with
  | none => return .noAnswer
  | some peer =>
    match ← (exchange request peer).block.toBaseIO with
    | .ok bytes => return .ofBytes bytes
    | .error _ => return .noAnswer

/-! ## Programs -/

def perform : (effect : Effect) → IO effect.Answer
  | .file call => file call
  | .node url call => call.exchange outcome url

def interpret {α : Type} : Program α → IO α
  | .done a => return a
  | .ask effect next => do interpret (next (← perform effect))

/-- A secret out of bytes that nobody can guess. -/
partial def freshSecret : IO SecretKey := do
  let bytes ← IO.getRandomBytes 32
  match SecretKey.ofNat? (BigEndian.value bytes.data.toList) with
  | some secret => return secret
  | none => freshSecret

/-- The number of the user, as the system tells it of this process. -/
def userOf? (status : String) : Option String :=
  (status.splitOn "\n").findSome? fun line =>
    match line.splitOn "\t" with
    | "Uid:" :: user :: _ => some user
    | _ => none

/-- The home directory of a user in a list of accounts. -/
def homeOf? (user accounts : String) : Option String :=
  (accounts.splitOn "\n").findSome? fun line =>
    match line.splitOn ":" with
    | [_, _, number, _, _, home, _] => if number = user then some home else none
    | _ => none

def accountHome : IO (Option String) := do
  let .ok status ← (IO.FS.readFile "/proc/self/status").toBaseIO | return none
  let .ok accounts ← (IO.FS.readFile "/etc/passwd").toBaseIO | return none
  return (userOf? status).bind (homeOf? · accounts)

open CommandLine in
def environment : IO Environment := do
  return ⟨homeDirectory? (← IO.getEnv homeVariable) (← accountHome),
    ← IO.getEnv directoryVariable, ← IO.getEnv nodeVariable⟩

end UtxoWallet.Main

def main (arguments : List String) : IO UInt32 := do
  let program := CommandLine.run (← Main.environment) (← Main.freshSecret) arguments
  let report ← Main.interpret program
  IO.print report.stdout
  IO.eprint report.stderr
  return report.exit.toUInt32
