import SchemaKeeper.Machine
import SchemaKeeper.Transport.Message
import Std.Async.DNS
import Std.Async.TCP
import Std.Async.Timer
import Std.Internal.UV.System

/-!
The program: it runs one command line on the real machine, with its files, its
environment and its network.  Encrypted connections are not made; they count as
not answered.
-/

namespace SchemaKeeper.Console

open Std.Async (Async)
open Std.Net (SocketAddress IPAddr IPv4Addr IPv6Addr)

/-! ## The network -/

def socketAddress (port : UInt16) : IPAddr → SocketAddress
  | .v4 addr => .v4 ⟨addr, port⟩
  | .v6 addr => .v6 ⟨addr, port⟩

def addressText (url : Url) : String :=
  match url.host with
  | some (.ipv6 groups) => Url.ipv6Text groups
  | some host => host.toText
  | none => ""

partial def receiveAll (socket : Std.Async.TCP.Socket.Client) (done : List ByteArray) :
    Async (List UInt8) := do
  match ← socket.recv? 65536 with
  | some bytes => receiveAll socket (bytes :: done)
  | none => return (done.reverse.map (·.toList)).flatten

/-- Sends a request to one address and receives all that comes back. -/
def exchangeWith (request : HttpRequest) (address : SocketAddress) : Async (List UInt8) := do
  let socket ← Std.Async.TCP.Socket.Client.mk
  socket.connect address
  socket.send ⟨request.bytes.toArray⟩
  receiveAll socket []

/-- Tries addresses until one takes the connection. -/
def exchangeWithAny (request : HttpRequest) : List SocketAddress → Async (List UInt8)
  | [] => throw (.userError "no address answers")
  | address :: rest => do
      try exchangeWith request address
      catch _ => exchangeWithAny request rest

def exchange (request : HttpRequest) : Async (Except ExchangeFailure HttpReply) := do
  if request.url.scheme != "http" then return .error .noAnswer
  try
    let found ← Std.Async.DNS.getAddrInfo (addressText request.url) ""
    let port := request.url.portOrDefault.getD 0
    let addresses := found.toList.map (socketAddress port)
    return HttpReply.read request.verb (← exchangeWithAny request addresses)
  catch _ => return .error .noAnswer

/-- An exchange that follows redirects, so many at most. -/
def follow : Nat → HttpRequest → Async (Except ExchangeFailure HttpReply)
  | 0, request => exchange request
  | limit + 1, request => do
      match ← exchange request with
      | .error e => return .error e
      | .ok reply =>
          match request.redirected reply with
          | some next => follow limit next
          | none => return .ok reply

instance : Inhabited (Except ExchangeFailure HttpReply) :=
  ⟨.error .noAnswer⟩

/-- An exchange that is given up after a time. -/
def followWithin (limit : Duration) (request : HttpRequest) :
    IO (Except ExchangeFailure HttpReply) := do
  let expire : Async (Except ExchangeFailure HttpReply) := do
    let milliseconds : Int := limit.nanoseconds / 1000000
    Std.Async.sleep (Std.Time.Millisecond.Offset.ofInt milliseconds)
    return .error .timedOut
  (Async.race (follow redirectLimit request) expire).block

/-! ## Files -/

def faultOf : IO.Error → FileFault
  | .noFileOrDirectory .. => .missing
  | .inappropriateType _ code _ => if code = 21 then .isDirectory else .notDirectory
  | .invalidArgument _ 36 _ => .nameTooLong
  | e => .other (toString e)

def find (path : String) : IO Found := do
  try return .file (← IO.FS.readBinFile path).toList
  catch e =>
    match faultOf e with
    | .missing => return .nothing
    | .isDirectory => return .directory
    | fault => return .unknown fault

def write (path text : String) : IO (Except FileFault Unit) := do
  try
    IO.FS.writeFile path text
    return .ok ()
  catch e => return .error (faultOf e)

/-! ## The machine -/

def machine : Machine IO where
  find := find
  write := write
  exchange limit request := return (← followWithin limit request).map HttpReply.response

def display (ending : Command.Ending) : IO Unit := do
  match ending with
  | .shown text => IO.print text
  | .failed failure => failure.log.forM IO.eprintln
  | .help => IO.print Command.usage
  | .wrongArguments => IO.eprint Command.usage

end SchemaKeeper.Console

def main (arguments : List String) : IO UInt32 := do
  let environment := (← Std.Internal.UV.System.osEnviron).toList
  let ending ← SchemaKeeper.Console.machine.run environment arguments
  SchemaKeeper.Console.display ending
  return ending.exitCode.toUInt32
