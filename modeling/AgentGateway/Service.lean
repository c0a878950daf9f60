import AgentGateway.Event.Frame
import AgentGateway.Json.Reader
import AgentGateway.Service.Endpoint
import AgentGateway.Text.Encoding

/-! The HTTP service.

A request to the endpoint is answered with one response as JSON, or with an event
stream. Failures of the gateway's own have a status and a body of their own; any
other failure is an internal error of which only the kind is told. An event
stream that fails ends in one `error` event, numbered after the last event. -/
namespace AgentGateway

structure HttpRequest where
  method : String
  path : String
  body : List Nat

inductive HttpBody where
  | text (s : String)
  /-- An event stream, frame by frame. -/
  | frames (fs : List String)
deriving DecidableEq, Repr

structure HttpAnswer where
  status : Int
  headers : List (String × String)
  body : HttpBody
deriving DecidableEq, Repr

structure Service where
  title : String
  endpoint : Endpoint
  /-- The name that the health route tells, where there is one. -/
  health : Option Value

namespace Service

/-! ### Answers -/

def jsonType : String × String := ("content-type", "application/json")

def json (status : Int) (v : Value) : HttpAnswer :=
  ⟨status, [jsonType], .text (Json.write Json.compact v)⟩

def detail (status : Int) (headers : List (String × String)) (message : String) : HttpAnswer :=
  ⟨status, headers ++ [jsonType],
    .text (Json.write Json.compact (.object [("detail", .text message)]))⟩

/-- An internal error, of which only the kind is told. -/
def internalError (kind : String) : HttpAnswer :=
  json 500 (.object [("error", .object [
    ("code", .text Report.serverError), ("message", .text "Internal server error"),
    ("type", .text kind)])])

/-- An answer that can be encoded, or an internal error in its place. -/
def encoded (a : HttpAnswer) : HttpAnswer :=
  match a.body with
  | .text s => match Text.encodingFault? s.toList with
    | some f => internalError (Misuse.unencodable f).name
    | none => a
  | .frames _ => a

/-- The answer to a request that failed. -/
def failed (f : Failure) : HttpAnswer :=
  match f with
  | .report r => encoded (json r.answerStatus r.body)
  | f => internalError f.name

/-- A document that goes out, unless it is beyond writing. -/
def writable (document : Except Failure Value) : Except Failure Value := do
  let v ← document
  match v.limit? .encoding with
  | some l => throw (.ofLimit l)
  | none => return v

/-- The answer with a response. What cannot go out and numbers beyond the finite ones
cannot be told. -/
def completed (r : Response) : HttpAnswer :=
  match writable r.document with
  | .error f => failed f
  | .ok v => if Json.finite v then encoded (json 200 v) else failed (.misuse .nonFiniteNumber)

def streamHeaders : List (String × String) :=
  [("cache-control", "no-cache,no-store"), ("connection", "keep-alive"),
    ("x-accel-buffering", "no"), ("content-type", "text/event-stream; charset=utf-8")]

/-! ### Event streams -/

def errorEvent (number : Int) (f : Failure) : Event :=
  let r := f.toAgentInvocation
  .plain number (.error (some r.code.display) r.message.display none)

/-- The frame of an event, if it can be encoded. -/
def frame? (e : Event) : Option String := some e.frame |>.filter fun s => Text.isEncodable s.toList

/-- What goes out of a stream: its frames, and the last event that was asked for where
that is not the end of the stream. -/
structure Outgoing where
  frames : List String
  stoppedAt : Option Projection.Emission

/-- Send events, then one that tells their failure. An event that cannot go out is such a
failure; one whose frame cannot be encoded breaks the stream off. -/
def send (failure : Option Failure) (next : Int) : List Projection.Emission → Outgoing
  | [] => ⟨failure.toList.filterMap fun f => frame? (errorEvent next f), none⟩
  | e :: rest =>
    let next := e.event.number + 1
    match writable e.event.document, frame? e.event with
    | .error f, _ => ⟨(frame? (errorEvent next f)).toList, some e⟩
    | .ok _, none => ⟨[], some e⟩
    | .ok _, some frame =>
      let out := send failure next rest
      { out with frames := frame :: out.frames }

def eventStream (frames : List String) : HttpAnswer := ⟨200, streamHeaders, .frames frames⟩

/-! ### Requests to the endpoint -/

def unreadable : String := "Request body is not valid JSON."

def invalid (faults : List Fault) : String :=
  s!"Invalid request: {faults.length} validation error(s)."

/-- How deep a body may be nested. -/
def bodyLevels : Nat := 950

/-- The request in a body. -/
def parse (body : List Nat) : Except Failure Request :=
  match (Text.decode? body).map (Json.document bodyLevels) with
  | some (.ok v) => match Request.read v with
    | .ok r => .ok r
    | .faulty faults => .error (.report (.invalidRequest (invalid faults)))
  | some (.error .tooDeep) => .error (.misuse .tooDeepToRead)
  | _ => .error (.report (.invalidRequest unreadable))

/-- An answer, with the messages that the agent saw on the way, if it was run. -/
structure Handled where
  answer : HttpAnswer
  seen : Option (List Message)
  entropy : Entropy

/-- Whether an agent takes note of its messages; one without a stream does not. -/
def takesNote (a : Agent) : Bool := a.stream.toOption.isSome || a.answer.isSome

/-- Handle the body of a request. -/
def handle (e : Endpoint) (now : Int) (body : List Nat) (entropy : Entropy) : Handled :=
  match parse body with
  | .error f => ⟨failed f, none, entropy⟩
  | .ok r =>
    match (IdSource.ofRequest r e.executor.lengths).run entropy with
    | (.error f, entropy) => ⟨failed f, none, entropy⟩
    | (.ok ids, entropy) =>
      let seen := if takesNote e.executor.agent then some r.messages else none
      if r.isStreaming then
        let s := e.executor.stream r ⟨ids, 0, entropy⟩ now false
        let out := send s.failure 0 s.emitted
        -- The agent is asked once the events that open the stream have gone out.
        let unasked := match out.stoppedAt with
          | some e => e.event.isOpening
          | none => r.limit?.isSome && e.executor.agent.stream.toOption.isSome
        ⟨eventStream out.frames, if unasked then none else seen,
          ((out.stoppedAt.map Projection.Emission.state).getD s.state).supply.entropy⟩
      else
        match (e.executor.respond r ids now).run entropy with
        | (.ok response, entropy) => ⟨completed response, seen, entropy⟩
        | (.error f, entropy) => ⟨failed f, seen, entropy⟩

/-! ### Routes -/

/-- What is found under a route. -/
inductive Target where
  | endpoint
  | health
  | manual
deriving DecidableEq, Repr

structure Route where
  pattern : Pattern
  methods : List String
  target : Target

def plainPattern (path : String) : Pattern := path.toList.map .char

/-- The pages that describe a service. -/
def manualPaths : List String := ["/openapi.json", "/docs", "/docs/oauth2-redirect", "/redoc"]

/-- The routes, in the order in which they are tried. -/
def routes (s : Service) : List Route :=
  (manualPaths.map fun path => ⟨plainPattern path, ["HEAD", "GET"], .manual⟩) ++
    ⟨s.endpoint.pattern, ["POST"], .endpoint⟩ ::
    s.health.toList.map fun _ => ⟨plainPattern "/health", ["GET"], .health⟩

/-- A path without the slashes at its end, or with one if it has none. -/
def otherEnding (path : String) : String :=
  let cs := path.toList.reverse
  match cs with
  | '/' :: _ => String.ofList (cs.dropWhile (· == '/')).reverse
  | _ => path ++ "/"

def healthy (name : Value) : HttpAnswer :=
  encoded (json 200 (.object [("status", .text "healthy"), ("agent", name)]))

/-- Answer a request: find the route, and say what is wrong where there is none. -/
def answer (s : Service) (now : Int) (q : HttpRequest) (entropy : Entropy) : Handled :=
  let quiet (a : HttpAnswer) : Handled := ⟨a, none, entropy⟩
  let leading (path : String) := s.routes.filter fun r => r.pattern.accepts path.toList
  match leading q.path with
  | [] =>
    if q.path != "/" && !(leading (otherEnding q.path)).isEmpty then quiet ⟨307, [], .text ""⟩
    else quiet (detail 404 [] "Not Found")
  | first :: more =>
    match (first :: more).find? fun r => r.methods.contains q.method with
    | none =>
      quiet (detail 405 [("allow", String.intercalate ", " first.methods)] "Method Not Allowed")
    | some r => match r.target with
      | .endpoint => handle s.endpoint now q.body entropy
      | .health => quiet (healthy (s.health.getD .null))
      | .manual => quiet (detail 404 [] "Not Found")

/-! ### Making services -/

/-- Serve an agent at a given path, or at the standard path for a given name. -/
def map (agentName : Value) (agent : Option Agent) (given : Fields)
    (kinds : Option (List BuilderKind)) : Except Failure Service := do
  if let some f := takenFault? "map_openai_responses" ["app", "agent_name", "agent"] given then
    throw (.misuse (.call f))
  let standard : Value := .text Settings.standardTemplate
  let path ← match (given.get? "responses_path").getD .null with
    | .null => do
      let name ← agentNameOf agentName
      pure (.text (← Registrar.fill standard name))
    | path => pure path
  let r ← Registrar.ofFields ((given.put "responses_path" path).put "agent_name" agentName)
  return ⟨"FastAPI", ← (r.add agent (.ofFields given kinds)).1, none⟩

def optionsOf (s : Settings) : EndpointOptions :=
  ⟨s.streamMedia, none, ⟨.int s.entropyLength, .int s.partitionLength⟩⟩

/-- What may be said about a service besides its settings. -/
def signature : Signature := ⟨"create_app", ["agent"], [], ["agent_name", "responses_path"]⟩

def callFault? (given : Fields) : Option CallFault :=
  if given.has "settings" then
    some (.repeated "agent_responses_runtime.engine.app.create_app" "settings")
  else signature.fault? given

/-- Serve an agent as the settings say, with a route that tells its health. -/
def create (agent : Option Agent) (given : Fields) (s : Settings) : Except Failure Service := do
  if let some f := callFault? given then throw (.misuse (.call f))
  let agentName := (given.get? "agent_name").getD .null
  let some agent := agent | throw (.misuse (.noAttribute Value.null.kindName
    (if agentName.isVoid then "display_name" else "description")))
  let name := if agentName.isVoid then .text agent.displayName else agentName
  let r ← Registrar.make ((given.get? "responses_path").getD .null) name (.text s.pathTemplate)
    (.int s.maxConcurrentRequests)
  return ⟨s!"{name.display} Responses API", ← (r.add (some agent) (optionsOf s)).1, some name⟩

end Service
end AgentGateway
