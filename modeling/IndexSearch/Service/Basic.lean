import IndexSearch.Url.Basic
import IndexSearch.Value.Shown

namespace IndexSearch

open Text

/-!
# Search services

A service is reached under a base URL, with a key, a version of its interface and a time limit. The
base URL is given or made from the name of the service.

* `Service.ofParts`, `Service.ofOptions` — a service from what callers give;
* `Service.headers` — the headers of every request.
-/

/-- A search service and how it is asked. -/
structure Service where
  /-- The URL that all requests are sent below. -/
  baseUrl : String
  /-- The key, if there is one. -/
  apiKey : Value
  /-- The version of the interface. -/
  apiVersion : Value
  /-- The time limit in seconds. -/
  timeout : Value

/-- Why no service can be made of what a caller gives. -/
inductive ServiceConfigError where
  /-- There is neither a name nor a URL. -/
  | unnamed
  /-- The URL is a string of bytes. -/
  | urlBytes
  /-- The URL is of another kind than a text. -/
  | urlKind (typeName : String)
  /-- There is no such option. -/
  | unknownOption (name : String)
  /-- The name of a part is used for an option. -/
  | repeatedPart (name : String)
deriving DecidableEq

/-- The wording of the error. -/
def ServiceConfigError.message : ServiceConfigError → String
  | unnamed => "Either a service name or an endpoint is required"
  | urlBytes => "a bytes-like object is required, not 'str'"
  | urlKind typeName => "'" ++ typeName ++ "' object has no attribute 'rstrip'"
  | unknownOption name =>
    "AsyncSearchClient.__init__() got an unexpected keyword argument '" ++ name ++ "'"
  | repeatedPart name =>
    "AsyncSearchClient.__init__() got multiple values for argument '" ++ name ++ "'"

namespace Service

/-- The version of the interface that is asked for if none is given. -/
def defaultApiVersion : String := "2020-06-30"

/-- The time limit in seconds if none is given. -/
def defaultTimeout : Number.Binary64 := Number.Binary64.ofInt 30

/-- The text without the slashes at its end. -/
def dropSlashes (s : String) : String :=
  String.ofList (s.toList.reverse.dropWhile (· = '/')).reverse

/-- The base URL of a service of a given name. -/
def urlOfName (name : String) : String := "https://" ++ name ++ ".search.windows.net"

/-- The base URL: the one given, or else that of the name. -/
def baseUrlOf (name endpoint : Value) : Except ServiceConfigError String :=
  if !endpoint.truthy then
    if name.truthy then .ok (dropSlashes (urlOfName name.plain)) else .error .unnamed
  else match endpoint with
    | .text s => .ok (dropSlashes s)
    | .bytes _ => .error .urlBytes
    | v => .error (.urlKind v.typeName)

/-- The service with the given name, key and options. -/
def ofParts (name apiKey endpoint apiVersion timeout : Value) :
    Except ServiceConfigError Service := do
  return ⟨← baseUrlOf name endpoint, apiKey, apiVersion, timeout⟩

/-- The names of the options. -/
def optionNames : List String := ["endpoint", "api_version", "timeout"]

/-- The names of what is given apart from the options. -/
def partNames : List String := ["self", "service_name", "api_key"]

/-- The service with the given name and key, and options under their names. -/
def ofOptions (name apiKey : Value) (options : List (Value × Value)) :
    Except ServiceConfigError Service :=
  match options.find? fun o => !optionNames.contains o.1.plain with
  | some (k, _) =>
    if partNames.contains k.plain then .error (.repeatedPart k.plain)
    else .error (.unknownOption k.plain)
  | none =>
    ofParts name apiKey ((Value.field? "endpoint" options).getD .null)
      ((Value.field? "api_version" options).getD (.text defaultApiVersion))
      ((Value.field? "timeout" options).getD (.real defaultTimeout))

/-- The headers of every request; the key is sent if it is present. -/
def headers (s : Service) : List (String × Value) :=
  [("User-Agent", .text "azquery/0.1"), ("Accept", .text "application/json")]
    ++ (if s.apiKey.truthy then [("api-key", s.apiKey)] else [])

end Service

end IndexSearch
