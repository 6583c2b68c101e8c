/-
The client of a relay over HTTP.

Members, setup messages and envelopes each have an address of their own on the relay.
What is not there yet is told from a failure where that can be: a missing setup message
or an empty mailbox is no failure, everything else but success is one.

Three calls wait.  They ask again and again, with a pause in between, until an answer
is what they wait for; any other answer and any failure only means to ask once more.
-/
import QuorumVault.Json.Decoder
import QuorumVault.Relay.Basic
import QuorumVault.Relay.Http
import QuorumVault.Text.Blank
import QuorumVault.Url.Basic

namespace QuorumVault

open Http

/-- The client of a relay. -/
structure RelayClient (τ : Type) where
  /-- The address of the relay, without a slash behind it. -/
  server : String
  transport : Transport τ
  pollInterval : Duration

namespace RelayClient

variable {τ α β : Type}

/-- A client for the relay at an address. -/
def make (server : String) (transport : Transport τ) (pollInterval : Duration) : RelayClient τ :=
  ⟨Text.trimEndOf '/' server, transport, pollInterval⟩

/-- How long anyone waits for the others to finish. -/
def completionWait : Duration :=
  Duration.seconds 60

/-- Why an exchange with the relay fails. -/
inductive Fault where
  | badAddress (fault : Url.Fault)
  | badHeader
  | notRequestable (address : String)
  | transport (failure : String)
  | refused (what : String) (status : Nat)
  | document (fault : Json.Fault)
deriving DecidableEq, Repr

def Fault.error : Fault → Error
  | .badAddress fault => .of .relay ("builder error: " ++ fault.message)
  | .badHeader => .of .relay "builder error: failed to parse header value"
  | .notRequestable address => .of .relay
      ("builder error for url (" ++ address ++ "): Parsed Url is not a valid Uri")
  | .transport failure => .of .relay failure
  | .refused what status => .of .relay (what ++ " returned " ++ statusText status)
  | .document fault => .of .relay ("error decoding response body: " ++ fault.message)

/-- What an exchange comes to. -/
abbrev Exchange (τ α : Type) := Option Duration × Except Fault α × τ

/-- A request to the relay, or why there is none. -/
def request (c : RelayClient τ) (method : Method) (path : String) (scope : Option String)
    (body : Option Json) : Except Fault Request := do
  let address := c.server ++ "/" ++ path
  let url ← (Url.ofText address).mapError .badAddress
  if ¬ scope.all isHeaderValue then throw .badHeader
  if ¬ url.isRequestable then throw (.notRequestable url.text)
  return ⟨method, address, scope, body.map Json.bytes⟩

/-- Sends a request, if there is one, and makes something of the response. -/
def exchange (c : RelayClient τ) (request : Except Fault Request) (meaning : Response → Except Fault α)
    (s : τ) (now : Time) : Exchange τ α :=
  match request with
  | .error fault => (some 0, .error fault, s)
  | .ok request =>
    let (took, response, s) := c.transport.send s now request
    (took, (response.mapError .transport).bind meaning, s)

/-! ### Responses -/

def expect (what : String) (response : Response) : Except Fault Unit :=
  if response.isSuccess then .ok () else .error (.refused what response.status)

/-- Demands success or that what was asked for is not there; whether it is. -/
def present (what : String) (response : Response) : Except Fault Bool :=
  if response.isSuccess then .ok true
  else if response.status = 404 then .ok false
  else .error (.refused what response.status)

/-- Reads the content of a response. -/
def content (d : Json.Decoder α) (response : Response) : Except Fault α :=
  (d.parse response.body).mapError .document

def parties (path : String) (response : Response) : Except Fault (List String) := do
  expect ("GET " ++ path) response
  content (.list .string) response

/-- A setup message; none if it is not there yet. -/
def setupMessage (session : String) (response : Response) : Except Fault (Option String) := do
  if ← present ("GET setup-message/" ++ session) response then
    let body := response.text
    return if body = "" then none else some body
  else return none

/-- The envelopes in a mailbox. -/
def envelopes (response : Response) : Except Fault (List Envelope) := do
  if ← present "download messages" response then content (.list Envelope.decoder) response
  else return []

/-! ### Exchanges -/

/-- Hands over the name of a member. -/
def postParty (c : RelayClient τ) (path party : String) (s : τ) (now : Time) : Exchange τ Unit :=
  c.exchange (c.request .post path none (some (.strings [party]))) (expect ("POST " ++ path)) s now

/-- What an exchange that anyone waits for has brought, if it is what they wait for. -/
def wanted (accept : α → Option β) (answer : Except Fault α) : Option β :=
  match answer with
  | .ok x => accept x
  | .error _ => none

/-- Asks again and again for what is wanted, as long as `left` lasts; when it was there, or none, and
at what time. -/
def poll (ask : τ → Time → Exchange τ α) (accept : α → Option β) (pause : Duration)
    (left : Duration) (s : τ) (now : Time) : Time × Option β × τ :=
  match ask s now with
  | (none, _, s) => (now + left, none, s)
  | (some took, answer, s) =>
    if left < took then (now + left, none, s)
    else
      match wanted accept answer with
      | some x => (now + took, some x, s)
      | none =>
        if left < took + max pause 1 then (now + left, none, s)
        else
          poll ask accept pause (left - (took + max pause 1)) s (now + (took + max pause 1))
termination_by left
decreasing_by lia

/-- A relay answers with the local member alone until another one has joined. -/
def started (parties : List String) : Option (List String) :=
  if 1 < parties.length then some parties else none

/-- Nothing, once all of some members are in a list. -/
def allIn (parties done : List String) : Option Unit :=
  if parties.all done.contains then some () else none

/-- Waits until the members have met. -/
def waitForStart (c : RelayClient τ) (s : τ) (now : Time) (session : String) (wait : Duration) :
    Option Duration × Except Error (List String) × τ :=
  let path := "start/" ++ session
  let request := c.request .get path none none
  let (later, found, s) :=
    poll (c.exchange request (parties path)) started c.pollInterval.pause wait s now
  (some (later - now), match found with
    | some parties => .ok parties
    | none => .error (.of .timeout
      ("session " ++ session ++ " did not start within " ++ wait.describe)), s)

/-- Waits for a setup message. -/
def waitForSetup (c : RelayClient τ) (s : τ) (now : Time) (session : String) (scope : Option String)
    (wait : Duration) : Option Duration × Except Error String × τ :=
  let request := c.request .get ("setup-message/" ++ session) scope none
  let (later, found, s) :=
    poll (c.exchange request (setupMessage session)) id c.pollInterval.pause wait s now
  (some (later - now), match found with
    | some body => .ok body
    | none => .error (.of .timeout
      ("setup message for session " ++ session ++ " not available within " ++ wait.describe)), s)

/-- Waits until all of some members have finished; whether they have. -/
def waitForCompletion (c : RelayClient τ) (s : τ) (now : Time) (session : String)
    (members : List String) : Option Duration × Except Error Bool × τ :=
  let path := "complete/" ++ session
  let request := c.request .get path none none
  let (later, found, s) :=
    poll (c.exchange request (parties path)) (allIn members) c.pollInterval.pause completionWait
      s now
  (some (later - now), .ok found.isSome, s)

/-- What a single exchange answers. -/
def single (x : Exchange τ α) : Option Duration × Except Error α × τ :=
  (x.1, x.2.1.mapError Fault.error, x.2.2)

/-- The relay that the client speaks to. -/
def relay (c : RelayClient τ) : Relay τ where
  ask s now := fun
    | .register session party => single (c.postParty session party s now)
    | .start session wait => c.waitForStart s now session wait
    | .setup session scope wait => c.waitForSetup s now session scope wait
    | .upload m scope =>
      let request := c.request .post ("message/" ++ m.sessionId) scope (some m.toJson)
      single (c.exchange request (expect "upload message") s now)
    | .download session party scope =>
      let request := c.request .get ("message/" ++ session ++ "/" ++ party) scope none
      single (c.exchange request envelopes s now)
    | .delete session party hash scope =>
      let path := "message/" ++ session ++ "/" ++ party ++ "/" ++ hash
      single (c.exchange (c.request .delete path scope none) (expect "delete message") s now)
    | .complete session party => single (c.postParty ("complete/" ++ session) party s now)
    | .completed session members => c.waitForCompletion s now session members

end RelayClient

end QuorumVault
