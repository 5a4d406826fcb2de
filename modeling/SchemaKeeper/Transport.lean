import SchemaKeeper.Gateway.Wire
import SchemaKeeper.Reconciliation

/-!
The transport: requests over HTTP to the address of a connection, and gateways
built on it.

The network itself is a parameter.  It carries one request at a time and gives
the answer or says how the exchange failed.
-/

namespace SchemaKeeper

/-! ## Networks -/

/-- A request as it goes out. -/
structure HttpRequest where
  verb : Wire.Verb
  url : Url
  /-- User name and password. -/
  credentials : Option (String × Option String)
  /-- A body is JSON. -/
  body : Option String
  deriving DecidableEq, Repr

inductive ExchangeFailure where
  /-- Nobody answered, or not in HTTP. -/
  | noAnswer
  /-- The body of the answer broke off. -/
  | brokenBody
  | timedOut
  deriving DecidableEq, Repr

structure Network (World : Type) where
  exchange : HttpRequest → World → Except ExchangeFailure Response × World

def Network.deserted : Network Unit :=
  ⟨fun _ world => (.error .noAnswer, world)⟩

/-! ## Transports -/

structure TransportOptions where
  operationTimeout : Duration
  /-- Certificates are not verified. -/
  insecureSkipVerify : Bool
  deriving DecidableEq, Repr

def Settings.transportOptions (settings : Settings) : TransportOptions :=
  ⟨.ofSeconds settings.runtime.operationTimeout.toNat, settings.tls.insecureSkipVerify⟩

/-- One cluster address with its credentials and the time a call may take. -/
structure Transport where
  baseUrl : String
  username : Option String
  password : Option String
  timeout : Duration
  deriving DecidableEq, Repr

namespace Transport

def ofConnection (connection : Connection) (options : TransportOptions) : Transport :=
  let base := (connection.baseUrl.toList.reverse.dropWhile (· == '/')).reverse
  ⟨String.ofList base, connection.username, connection.password, options.operationTimeout⟩

def inspect (t : Transport) : String :=
  s!"HttpTransport \x7b base_url: {Text.quoted t.baseUrl}, " ++
    s!"username: {Connection.quotedOption t.username}, timeout: {t.timeout.toText}, .. \x7d"

def failure (t : Transport) (url : Url) : ExchangeFailure → RemoteError
  | .noAnswer => .transport s!"error sending request for url ({url.withoutUserInfo})"
  | .brokenBody => .transport s!"error decoding response body for url ({url.withoutUserInfo})"
  | .timedOut => .timeout t.timeout

/-- Requests do not go to hosts whose names hold one of these characters. -/
def isBarred (c : Char) : Bool :=
  "\"`\x7b\x7d".toList.contains c

def namesHost (url : Url) : Bool :=
  !((url.hostText.getD "").toList.any isBarred)

/-- The request for a path with its query; there is none if that makes no proper address. -/
def request (t : Transport) (verb : Wire.Verb) (target : String) (body : Option String) :
    Except RemoteError HttpRequest :=
  match Url.parse (t.baseUrl ++ target) with
  | .error _ => .error (.transport "builder error")
  | .ok url =>
      if namesHost url then .ok ⟨verb, url, t.username.map fun name => (name, t.password), body⟩
      else .error (.transport s!"builder error for url ({url.withoutUserInfo})")

def outcome (t : Transport) (request : HttpRequest) (found : Except ExchangeFailure Response) :
    Outcome :=
  found.mapError (t.failure request.url)

variable {World : Type}

def send (network : Network World) (t : Transport) (verb : Wire.Verb) (target : String)
    (body : Option String) (world : World) : Outcome × World :=
  match t.request verb target body with
  | .error e => (.error e, world)
  | .ok request =>
      let (found, world) := network.exchange request world
      (t.outcome request found, world)

end Transport

/-! ## Gateways -/

/-- A transport and the version whose dialect is spoken over it. -/
structure HttpGateway where
  version : Version
  transport : Transport

namespace HttpGateway

variable {World : Type}

def answer (network : Network World) (gateway : HttpGateway) (c : Call) (world : World) :
    Except RemoteError c.Answer × World :=
  let request := Wire.request gateway.version c
  let (outcome, world) :=
    gateway.transport.send network request.verb request.target request.body world
  (Wire.read outcome c, world)

/-- The version that a cluster reports at its root. -/
def reportedVersion (root : Json) : String :=
  match root.at? ["version", "number"] with
  | some (.string s) => s
  | _ => ""

/-- The version of a connection if it is known, or else the reported one. -/
def versionFor (connection : Connection) (root : Json) : Except ConnectionError Version :=
  match connection.version with
  | some version => .ok version
  | none => Version.ofReported (reportedVersion root)

/-- The gateway over a transport on which the root was asked for with this outcome. -/
def ofRoot (transport : Transport) (connection : Connection) (outcome : Outcome) :
    Except ConnectError HttpGateway := do
  let root ← (Wire.readDocument outcome).mapError .unreachable
  let version ← (versionFor connection root).mapError .connection
  return ⟨version, transport⟩

/-- Asks the cluster for its root, and learns its version. -/
def connect (network : Network World) (options : TransportOptions) (connection : Connection)
    (world : World) : Except ConnectError HttpGateway × World :=
  let transport := Transport.ofConnection connection options
  let (outcome, world) := transport.send network .get "/" none world
  (ofRoot transport connection outcome, world)

def connector (network : Network World) (options : TransportOptions) : Connector World where
  Gateway := HttpGateway
  connect := connect network options
  answer := answer network

end HttpGateway

end SchemaKeeper
