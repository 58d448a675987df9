import InfluxKeeper.Api.Inspect
import InfluxKeeper.Json.Writer

/-!
# Calls of the server

What can be asked of the server. A call is one request, and the answer to it is decoded without a look at
what was asked; only the lookups by name then pick the first of the objects found. An answer whose status
tells of an error, or that is no JSON, is a fault.
-/

namespace InfluxKeeper.Api

/-- A server as a client knows it. -/
structure Client where
  base : String
  token : String
  timeout : Int
  deriving DecidableEq, Repr

/-- The client of an endpoint. Slashes at the end of the endpoint are dropped. -/
def Client.connect (endpoint token : String) (timeout : Int) : Client :=
  ⟨String.ofList (Text.stripEnd (· == '/') endpoint.toList) ++ "/api/v2", token, timeout⟩

/-- The header fields of every request. The token stands in one of them, if there is a token. -/
def Client.headers (c : Client) : List (String × String) :=
  ("Accept", "application/json") ::
    if c.token = "" then [] else [("Authorization", "Token " ++ c.token)]

/-- A request, with the seconds that an answer may take. -/
structure Request where
  method : String
  url : String
  headers : List (String × String)
  query : List (String × Value)
  body : Value
  timeout : Int
  deriving DecidableEq

/-- A request of a client to a path below its base. -/
def Client.request (c : Client) (method path : String) (query : List (String × Value))
    (body : Value) : Request :=
  ⟨method, c.base ++ path, c.headers, query, body, c.timeout⟩

/-- What comes back for a request. -/
inductive Answer
  | response (status : Int) (text : String)
  | unreachable (message : String)
  | timedOut
  | cancelled
  deriving DecidableEq, Repr

/-- The message of an error: the entry of that name if there is one, else the whole text. -/
def errorMessage (text : String) : Value :=
  match Json.read text with
  | .ok (.map entries) =>
    let message := Entries.get entries "message"
    if message.truthy then message else .text text
  | _ => .text text

/-- What an answer says: null for no content, else the JSON of its text. -/
def Answer.decode : Answer → Except Fault Value
  | unreachable message => .error (.unreachable message)
  | timedOut => .error .timedOut
  | cancelled => .error .cancelled
  | response status text =>
    if 400 ≤ status then .error (.status status (errorMessage text))
    else if status = 204 ∨ text = "" then .ok .null
    else (Json.read text).mapError .badJson

/-- What can be asked of the server. -/
inductive Call
  | findOrganization (name : Value)
  | createOrganization (body : Value)
  | updateOrganization (body : Value)
  | deleteOrganization (id : Value)
  | findBucket (name : Value)
  | createBucket (body : Value)
  | updateBucket (body : Value)
  | deleteBucket (id : Value)
  | listMappings (org orgID id : Value)
  | createMapping (body : Value)
  | updateMapping (id body org : Value)
  | deleteMapping (id org : Value)
  deriving DecidableEq

/-- A query without what is null. -/
def queryOf (fields : List (String × Value)) : List (String × Value) :=
  fields.filter fun f => !f.2.isNull

/-- What an update sends of a body: the entries that may change, and the id that the body names. -/
def updateParts (changing : List String) (body : Value) : Except Fault (Value × Value) :=
  match body with
  | .map entries =>
    match Entries.get? entries "id" with
    | some id =>
      .ok (id, .map (entries.filter fun e => changing.any fun key => e.1.same (.text key)))
    | none => .error (.missingKey (.text "id"))
  | body => .error (.noEntries body.typeName "items")

/-- The request of a call. -/
def Call.request (c : Client) : Call → Except Fault Request
  | findOrganization name => .ok (c.request "GET" "/orgs" (queryOf [("org", name)]) .null)
  | createOrganization body => .ok (c.request "POST" "/orgs" [] body)
  | updateOrganization body => do
    let (id, body) ← updateParts ["name", "description"] body
    return c.request "PATCH" ("/orgs/" ++ id.shown) [] body
  | deleteOrganization id => .ok (c.request "DELETE" ("/orgs/" ++ id.shown) [] .null)
  | findBucket name => .ok (c.request "GET" "/buckets" (queryOf [("name", name)]) .null)
  | createBucket body => .ok (c.request "POST" "/buckets" [] body)
  | updateBucket body => do
    let (id, body) ← updateParts ["name", "description", "retentionRules"] body
    return c.request "PATCH" ("/buckets/" ++ id.shown) [] body
  | deleteBucket id => .ok (c.request "DELETE" ("/buckets/" ++ id.shown) [] .null)
  | listMappings org orgID id =>
    .ok (c.request "GET" "/dbrps" (queryOf [("org", org), ("orgID", orgID), ("id", id)]) .null)
  | createMapping body => .ok (c.request "POST" "/dbrps" [] body)
  | updateMapping id body org =>
    .ok (c.request "PATCH" ("/dbrps/" ++ id.shown) (queryOf [("org", org)]) body)
  | deleteMapping id org =>
    .ok (c.request "DELETE" ("/dbrps/" ++ id.shown) (queryOf [("org", org)]) .null)

/-- The first of the objects found under a key of an answer; none is a fault that names what was looked
up. -/
def pickFirst (key kind : String) (name answer : Value) : Except Fault Value := do
  let found := (← (answer.orElse (.map [])).getEntry key).orElse (.list [])
  if found.truthy then found.getFirst
  else throw (.failed (Fault.notFoundMessage kind name.shown))

/-- The result of a call, from what its answer says. -/
def Call.result (answer : Value) : Call → Except Fault Value
  | findOrganization name => pickFirst "orgs" "organization" name answer
  | findBucket name => pickFirst "buckets" "bucket" name answer
  | listMappings .. => .ok (answer.orElse (.map []))
  | deleteOrganization _ => .ok .null
  | deleteBucket _ => .ok .null
  | deleteMapping .. => .ok .null
  | _ => .ok answer

/-- The outcome of a call that met an answer. -/
def Call.outcome (call : Call) (answer : Answer) : Except Fault Value :=
  answer.decode.bind fun v => call.result v

end InfluxKeeper.Api
