/-!
# Why a call to a cluster failed

`Failure` lists the causes, `Failure.message` words them. `Errand` says what was being attempted
when a request was lost or refused.
-/

namespace Reindex

/-- What a request was sent for. -/
inductive Errand where
  | checkIndex
  | createIndex (index : String)
  | deleteIndex (index : String)
  | refreshIndex (index : String)
  | awaitHealth
  | lookUpAlias (aliasName : String)
  | listAliases (index : String)
  | applyAliasActions
  | updateSettings (index : String)
  | getDocument (id : String)
  | storeDocument (id : String)
deriving DecidableEq, Repr

def Errand.text : Errand → String
  | .checkIndex => "check whether the index exists"
  | .createIndex index => "create index '" ++ index ++ "'"
  | .deleteIndex index => "delete index '" ++ index ++ "'"
  | .refreshIndex index => "refresh index '" ++ index ++ "'"
  | .awaitHealth => "wait for cluster health"
  | .lookUpAlias name => "look up alias '" ++ name ++ "'"
  | .listAliases index => "list aliases of index '" ++ index ++ "'"
  | .applyAliasActions => "apply alias actions"
  | .updateSettings index => "update settings of '" ++ index ++ "'"
  | .getDocument id => "get document '" ++ id ++ "'"
  | .storeDocument id => "index document '" ++ id ++ "'"

/-- Reason phrases of the registered status codes. -/
def reasonPhrases : List (Nat × String) :=
  [ (100, "Continue"), (101, "Switching Protocols"), (102, "Processing"), (103, "Early Hints"),
    (200, "OK"), (201, "Created"), (202, "Accepted"), (203, "Non Authoritative Information"),
    (204, "No Content"), (205, "Reset Content"), (206, "Partial Content"), (207, "Multi-Status"),
    (208, "Already Reported"), (226, "IM Used"), (300, "Multiple Choices"),
    (301, "Moved Permanently"), (302, "Found"), (303, "See Other"), (304, "Not Modified"),
    (305, "Use Proxy"), (307, "Temporary Redirect"), (308, "Permanent Redirect"),
    (400, "Bad Request"), (401, "Unauthorized"), (402, "Payment Required"), (403, "Forbidden"),
    (404, "Not Found"), (405, "Method Not Allowed"), (406, "Not Acceptable"),
    (407, "Proxy Authentication Required"), (408, "Request Timeout"), (409, "Conflict"),
    (410, "Gone"), (411, "Length Required"), (412, "Precondition Failed"),
    (413, "Payload Too Large"), (414, "URI Too Long"), (415, "Unsupported Media Type"),
    (416, "Range Not Satisfiable"), (417, "Expectation Failed"), (418, "I'm a teapot"),
    (421, "Misdirected Request"), (422, "Unprocessable Entity"), (423, "Locked"),
    (424, "Failed Dependency"), (425, "Too Early"), (426, "Upgrade Required"),
    (428, "Precondition Required"), (429, "Too Many Requests"),
    (431, "Request Header Fields Too Large"), (451, "Unavailable For Legal Reasons"),
    (500, "Internal Server Error"), (501, "Not Implemented"), (502, "Bad Gateway"),
    (503, "Service Unavailable"), (504, "Gateway Timeout"), (505, "HTTP Version Not Supported"),
    (506, "Variant Also Negotiates"), (507, "Insufficient Storage"), (508, "Loop Detected"),
    (510, "Not Extended"), (511, "Network Authentication Required") ]

/-- A status code with its reason phrase. -/
def statusText (status : Nat) : String :=
  toString status ++ " " ++ (reasonPhrases.lookup status).getD "<unknown status code>"

/-- Why a call to a cluster failed. -/
inductive Failure where
  /-- An index is to be created that is there already. -/
  | alreadyExists (index : String)
  /-- An index is to be deleted that is not there. -/
  | noSuchIndex (index : String)
  | refreshOfMissing (index : String)
  | aliasActionOnMissing (index : String)
  | settingsOfMissing (index : String)
  | documentIntoMissing (id index : String)
  /-- No answer came. -/
  | neverSent (errand : Errand)
  /-- The body of the answer did not come whole. -/
  | answerLost (errand : Errand) (status : Nat)
  /-- The answer is no success. -/
  | refused (errand : Errand) (status : Nat) (body : String)
  /-- The answer says neither that an index exists nor that it does not. -/
  | existenceUnclear (index : String) (status : Nat)
  | healthLost (status : Nat)
  | healthRefused (status : Nat) (body : String)
  | healthUnreadable
  | aliasesUnreadable
  | documentUnreadable
  /-- The address of the cluster is no URL. -/
  | notAUrl (address : String)
  /-- The address of the cluster is a URL without a path to extend. -/
  | noBaseUrl (address : String)
deriving DecidableEq, Repr

def Failure.message : Failure → String
  | .alreadyExists index => "💀 resource_already_exists_exception: index '" ++ index ++
      "' already exists"
  | .noSuchIndex index => "💀 index_not_found_exception: no such index '" ++ index ++ "'"
  | .refreshOfMissing index => "💀 cannot refresh '" ++ index ++ "', it does not exist"
  | .aliasActionOnMissing index =>
    "💀 alias action targets missing index '" ++ index ++ "'; nothing applied"
  | .settingsOfMissing index => "💀 cannot update settings of '" ++ index ++ "', it does not exist"
  | .documentIntoMissing id index => "💀 cannot index '" ++ id ++ "' into missing index '" ++
      index ++ "'"
  | .neverSent errand => "💀 could not " ++ errand.text ++
      ": the request never made it to Elasticsearch"
  | .answerLost errand status =>
    "💀 could not " ++ errand.text ++ ": Elasticsearch answered " ++ statusText status ++
      " but the body never arrived"
  | .refused errand status body =>
    "💀 could not " ++ errand.text ++ ": Elasticsearch answered " ++ statusText status ++
      " with '" ++ body ++ "'"
  | .existenceUnclear index status =>
    "💀 HEAD /" ++ index ++ " answered " ++ statusText status ++ "; cannot tell whether it exists"
  | .healthLost status =>
    "💀 cluster health answered " ++ statusText status ++ " but its body was lost in transit"
  | .healthRefused status body => "💀 cluster health answered " ++ statusText status ++ " with '" ++
      body ++ "'"
  | .healthUnreadable => "💀 cluster health response did not parse"
  | .aliasesUnreadable => "💀 alias response is not JSON. The cluster is speaking in tongues."
  | .documentUnreadable => "💀 document response did not parse"
  | .notAUrl address =>
    "💀 '" ++ address ++
      "' is not a URL we can talk to. Include the scheme, e.g. http://localhost:9200"
  | .noBaseUrl address => "💀 '" ++ address ++ "' cannot be used as a base URL"

end Reindex
