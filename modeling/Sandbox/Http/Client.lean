import Sandbox.Config.Basic
import Sandbox.Files.Content
import Sandbox.Http.Url
import Sandbox.LoadError

/-!
# Downloads

A client asks servers and follows their redirects. What a server answers may depend on what was
asked before, so that servers can come, go and change.

## Main definitions

* `Request`, `Reply` : what is sent and what comes back.
* `Traffic` : the servers, with what they were asked so far.
* `Traffic.received` : what reached them.
* `Client` : who asks.
* `Client.get` : asks, and follows redirects.
* `Client.download` : the content at an address.
-/

namespace Sandbox.Http

/-- What a server is asked. -/
structure Request where
  /-- The address. -/
  url : Url
  /-- Who asks. -/
  agent : String
  deriving DecidableEq, Repr

/-- What comes back. -/
inductive Reply where
  /-- Nothing, as no server is there. -/
  | unreachable
  /-- Nothing, as the server breaks the connection. -/
  | dropped
  /-- An answer: its status, where else to ask, the body, and whether the body is whole. -/
  | answer (status : Nat) (location : Option String) (body : Files.Content) (isWhole : Bool)

/-- The servers, with what they were asked so far. -/
structure Traffic where
  /-- What is answered to a request after so many earlier ones. -/
  reply : (earlier : Nat) → Url → Reply
  /-- The requests so far. -/
  sent : List Request := []

/-- Servers that cannot be reached. -/
def Traffic.unreachable : Traffic :=
  ⟨fun _ _ => .unreachable, []⟩

/-- The requests that reached a server. -/
def Traffic.received (traffic : Traffic) : List Request :=
  (traffic.sent.zip (List.range traffic.sent.length)).filterMap fun (request, earlier) =>
    match traffic.reply earlier request.url with
    | .unreachable => none
    | _ => some request

/-- The reply to one more request. -/
def exchange (request : Request) : StateM Traffic Reply := do
  let traffic ← get
  set { traffic with sent := traffic.sent ++ [request] }
  return traffic.reply traffic.sent.length request.url

/-- Who asks, and how many redirects are followed. -/
structure Client where
  /-- The name under which the client asks. -/
  agent : String
  /-- How many redirects are followed. -/
  maxRedirects : Nat
  deriving DecidableEq, Repr

namespace Client

/-- The name of a client without another one. -/
def defaultAgent : String := "polyrun/0.1.0"

/-- Whether a name may be sent: it has no control characters but tabs. -/
def isAgent (agent : String) : Bool :=
  agent.toList.all fun c => (0x20 ≤ c.toNat && c.toNat != 0x7F) || c == '\t'

/-- The client for a configuration. -/
def ofConfig (network : Config.Network) : Except LoadError Client :=
  let agent := network.userAgent.getD defaultAgent
  if isAgent agent then .ok ⟨agent, network.maxRedirects⟩
  else .error (.fetch "" "Failed to create HTTP client: builder error")

/-- Whether a status asks to look elsewhere. -/
def isRedirect (status : Nat) : Bool :=
  [301, 302, 303, 307, 308].contains status

/-- Whether a status tells of success. -/
def isSuccess (status : Nat) : Bool :=
  200 ≤ status && status < 300

/-- The message about an address. -/
def about (what : String) (url : Url) : String :=
  what ++ " for url (" ++ url.text ++ ")"

/-- Asks at an address and follows at most so many redirects. The answer is a status, a body and
whether the body is whole. -/
def follow (client : Client) (redirects : Nat) (url : Url) :
    StateM Traffic (Except String (Nat × Files.Content × Bool)) := do
  if !url.isHttp then return .error (about "builder error" url)
  match ← exchange ⟨url, client.agent⟩ with
  | .unreachable | .dropped => return .error (about "error sending request" url)
  | .answer status location body isWhole =>
    match (location.filter fun _ => isRedirect status).bind url.resolve? with
    | none => return .ok (status, body, isWhole)
    | some next =>
      match redirects with
      | 0 => return .error (about "error following redirect" url)
      | redirects + 1 => client.follow redirects next

/-- Asks at the address that a text stands for. -/
def get (client : Client) (text : String) :
    StateM Traffic (Except String (Nat × Files.Content × Bool)) := do
  match Url.parse? text with
  | none => return .error "builder error"
  | some url => client.follow client.maxRedirects url

/-- The content at the address that a text stands for. -/
def download (client : Client) (text : String) :
    StateM Traffic (Except LoadError Files.Content) := do
  match ← client.get text with
  | .error message => return .error (.fetch text message)
  | .ok (status, body, isWhole) =>
    if !isSuccess status then return .error (.http text status)
    else if !isWhole then
      return .error (.fetch text "Failed to read response: error decoding response body")
    else return .ok body

end Client

end Sandbox.Http
