import Reindex.Cluster.Rest.BulkBody
import Reindex.Cluster.Rest.Wire
import Reindex.Text.Base64

/-!
# A cluster behind a REST interface

Each call is one request. `RestClient.ofAddress` refuses addresses to which no path can be added;
the rest of what may go wrong is found out when a request is sent.
-/

namespace Reindex

/-- Where a cluster is and how it is spoken to (`ElasticsearchBackend`). -/
structure RestClient where
  base : Url
  generation : ApiGeneration
  /-- The value of the header that names the sender. -/
  authorization : Option String := none
deriving DecidableEq, Repr

/-- Who sends: with a key, or with a name and perhaps a password. The key goes first. -/
structure Credentials where
  username : Option String := none
  password : Option String := none
  apiKey : Option String := none
deriving DecidableEq, Repr

/-- The header of a name and a password. -/
def basicAuthorization (username : List UInt8) (password : List UInt8) : String :=
  "Basic " ++ String.ofList (Text.base64 (username ++ 0x3A :: password))

/-- The header that credentials give. -/
def Credentials.header? (c : Credentials) : Option String :=
  match c.apiKey, c.username with
  | some key, _ => some ("ApiKey " ++ key)
  | none, some name =>
    some (basicAuthorization name.toUTF8.toList ((c.password.getD "").toUTF8.toList))
  | none, none => none

/-- The text that encoded characters stand for. -/
def Url.decoded? (cs : List Char) : Option (List UInt8) :=
  let bytes := Url.percentDecode cs
  if (String.fromUTF8? ⟨bytes.toArray⟩).isSome then some bytes else none

/-- The header of the name and the password inside a URL, if it has any that can be read. A password
that cannot be read is passed over. -/
def Url.header? (u : Url) : Option String := do
  let username ← Url.decoded? u.username
  let password := if u.password.isEmpty then none else Url.decoded? u.password
  if username.isEmpty ∧ password.isNone then none
  else some (basicAuthorization username (password.getD []))

/-- A URL without the name and the password that go into a header. -/
def Url.withoutHeader (u : Url) : Url :=
  if u.header?.isSome then { u with username := [], password := [] } else u

namespace RestClient

/-- The client of an address (`EsHttp.new`). -/
def ofAddress (address : String) (generation : ApiGeneration) (credentials : Credentials) :
    Except Failure RestClient :=
  match Url.read? address with
  | none => .error (.notAUrl address)
  | some url =>
    if url.isOpaque then .error (.noBaseUrl address)
    else .ok {
      base := url.withoutHeader
      generation
      authorization := credentials.header? <|> url.header? }

/-- A URL under the base. -/
def url (c : RestClient) (segments : List String) : Url := c.base.extend segments

/-- A request without a body (`EsHttp.request`). -/
def bare (c : RestClient) (method : String) (segments : List String) : Request :=
  { method, url := c.url segments, authorization := c.authorization }

/-- A request with a JSON text as its body (`EsHttp.json_request`). -/
def withBody (c : RestClient) (method : String) (segments : List String) (body : String) :
    Request :=
  { c.bare method segments with contentType := some "application/json", body }

def isSuccess (status : Nat) : Bool := 200 ≤ status && status < 300


/-- A request with its errand: the status and the body of the answer (`EsHttp.send`). -/
def exchange (r : Request) (errand : Errand) : EStateM Failure Wire (Nat × Option String) := do
  match ← modifyGet (Wire.send r) with
  | .lost _ => throw (.neverSent errand)
  | .answered status body => return (status, body)

/-- The body of an answer that is no failure; none stands for a status that is let pass. -/
def expectBody (errand : Errand) (answer : Nat × Option String) : EStateM Failure Wire String := do
  match answer with
  | (status, none) => throw (.answerLost errand status)
  | (status, some body) =>
    if isSuccess status then return body else throw (.refused errand status body)

/-- A request that has to succeed (`send_expect_success`). -/
def expectSuccess (r : Request) (errand : Errand) : EStateM Failure Wire Unit := do
  let _ ← expectBody errand (← exchange r errand)

/-- A request for something that may not be there (`send_allow_404`). -/
def expectFound (r : Request) (errand : Errand) : EStateM Failure Wire (Option String) := do
  let answer ← exchange r errand
  if answer.1 = 404 then return none else return some (← expectBody errand answer)

/-! ## The calls -/

def indexExists (c : RestClient) (index : String) : EStateM Failure Wire Bool := do
  let (status, _) ← exchange (c.bare "HEAD" [index]) .checkIndex
  if isSuccess status then return true
  else if status = 404 then return false
  else throw (.existenceUnclear index status)

/-- What an index is created with; parts that are null are left out. -/
def creationBody (c : RestClient) (settings mappings : Json) : Json :=
  .ofMembers <|
    (if settings.isNull then [] else [("settings", settings)]) ++
    (if mappings.isNull then [] else [("mappings", c.generation.mappingsBody mappings)])

def createIndex (c : RestClient) (index : String) (settings mappings : Json) :
    EStateM Failure Wire Unit :=
  expectSuccess (c.withBody "PUT" [index] (c.creationBody settings mappings).text)
    (.createIndex index)

def deleteIndex (c : RestClient) (index : String) : EStateM Failure Wire Unit :=
  expectSuccess (c.bare "DELETE" [index]) (.deleteIndex index)

def refreshIndex (c : RestClient) (index : String) : EStateM Failure Wire Unit :=
  expectSuccess (c.bare "POST" [index, "_refresh"]) (.refreshIndex index)

/-- The health in a JSON value that is its name, or an object whose only member has that name. -/
def healthOfJson? : Json → Option Health
  | .string s => Health.ofName? s
  | .object [(s, .null)] => Health.ofName? s
  | _ => none

/-- The report in the body of a health answer: an object with `status` and perhaps `timed_out`, or
an array of the two. -/
def readHealth? (body : String) : Option HealthReport := do
  let flag (j : Option Json) : Option Bool := match j with
    | none => some false
    | some j => j.asBool?
  match (Json.parse body).toOption with
  | some (.object members) =>
    let status ← healthOfJson? (← Entries.get? "status" members)
    return ⟨← flag (Entries.get? "timed_out" members), status⟩
  | some (.array (status :: rest)) =>
    if rest.length > 1 then none else return ⟨← flag rest.head?, ← healthOfJson? status⟩
  | _ => none

/-- The status of an answer for which there was not enough time. -/
def requestTimeout : Nat := 408

def waitForHealth (c : RestClient) (least : Health) (timeout : Nat) :
    EStateM Failure Wire HealthReport := do
  let query := "wait_for_status=" ++ least.name ++ "&timeout=" ++ toString
    (max (timeout / 1000) 1) ++ "s"
  let r := c.bare "GET" ["_cluster", "health"]
  match ← exchange { r with url := { r.url with query := some query.toList } } .awaitHealth with
  | (status, none) => throw (.healthLost status)
  | (status, some body) =>
    if !isSuccess status && status ≠ requestTimeout then throw (.healthRefused status body)
    match readHealth? body with
    | none => throw .healthUnreadable
    | some report => return ⟨report.timedOut || report.status.worse least, report.status⟩

def aliases (c : RestClient) (lookup : AliasLookup) : EStateM Failure Wire AliasTable := do
  let (segments, errand) := match lookup with
    | .ofAlias aliasName => (["_alias", aliasName], Errand.lookUpAlias aliasName)
    | .ofIndex index => ([index, "_alias"], Errand.listAliases index)
  match ← expectFound (c.bare "GET" segments) errand with
  | none => return ∅
  | some body =>
    match Json.parse body with
    | .error _ => throw .aliasesUnreadable
    | .ok j => return AliasTable.ofJson j

/-- An alias action as JSON. The filter is left out where there is none. -/
def actionJson : AliasAction → Json
  | .add index aliasName filter =>
    .object [("add", .ofMembers ([("index", .string index), ("alias", .string aliasName)] ++
      (filter.map fun f => ("filter", f)).toList))]
  | .remove index aliasName => .object
      [("remove", .ofMembers [("index", .string index), ("alias", .string aliasName)])]

def updateAliases (c : RestClient) (actions : List AliasAction) : EStateM Failure Wire Unit :=
  expectSuccess
    (c.withBody "POST" ["_aliases"]
      (Json.object [("actions", .array (actions.map actionJson))]).text)
    .applyAliasActions

/-- Managed settings as JSON. -/
def settingsJson (u : SettingsUpdate) : Json :=
  .ofMembers <|
    (u.replicas.map fun n => ("number_of_replicas", Json.ofNat n)).toList ++
    (u.refreshInterval.map fun r => ("refresh_interval", Json.string r)).toList

def updateSettings (c : RestClient) (index : String) (update : SettingsUpdate) :
    EStateM Failure Wire Unit :=
  expectSuccess
    (c.withBody "PUT" [index, "_settings"] (Json.object [("index", settingsJson update)]).text)
    (.updateSettings index)

/-- The meaning of a whole answer to a bulk request. -/
def bulkAnswer (ops : List Operation) (status : Nat) (body : String) : BulkAnswer :=
  if isSuccess status then
    match BulkBody.decode ops body with
    | .ok items => .items items
    | .error failure => .failed failure
  else
    let retryable := status = 429 ∨ (500 ≤ status ∧ status < 600)
    .failed ⟨"bulk answered " ++ statusText status ++ ": " ++ body, retryable⟩

/-- The request of a bulk call. -/
def bulkRequest (c : RestClient) (body : String) : Request :=
  { c.bare "POST" ["_bulk"] with contentType := some "application/x-ndjson", body }

def bulk (c : RestClient) (index : String) (ops : List Operation) (w : Wire) : BulkAnswer × Wire :=
  match BulkBody.encode c.generation index ops with
  | .error fault => (.failed (.lasting fault.message), w)
  | .ok body =>
    let r := c.bulkRequest body
    match w.send r with
    | (.lost reason, w) => (.failed (.passing ("bulk request never arrived: " ++ reason)), w)
    | (.answered _ none, w) =>
      let reason := "error decoding response body for url (" ++ r.url.text ++ ")"
      (.failed (.passing ("bulk response body was lost: " ++ reason)), w)
    | (.answered status (some body), w) => (bulkAnswer ops status body, w)

def getDocument (c : RestClient) (index id : String) : EStateM Failure Wire (Option String) := do
  match ← expectFound (c.bare "GET" (c.generation.documentPath index id)) (.getDocument id) with
  | none => return none
  | some body =>
    match Json.parse body with
    | .error _ => throw .documentUnreadable
    | .ok j =>
      if j.get? "found" = some (.bool false) then return none
      else return (j.get? "_source").map Json.text

def putDocument (c : RestClient) (index id body : String) : EStateM Failure Wire Unit :=
  expectSuccess (c.withBody "PUT" (c.generation.documentPath index id) body) (.storeDocument id)

/-- The client as a cluster. A bulk call is answered at once. -/
def cluster (c : RestClient) : Cluster Wire Unit where
  indexExists := c.indexExists
  createIndex := c.createIndex
  deleteIndex := c.deleteIndex
  refreshIndex := c.refreshIndex
  waitForHealth := c.waitForHealth
  aliases := c.aliases
  updateAliases := c.updateAliases
  updateSettings := c.updateSettings
  beginBulk _ _ _ w := ((0, ()), w)
  finishBulk _ := c.bulk
  getDocument := c.getDocument
  putDocument := c.putDocument

end RestClient

end Reindex
