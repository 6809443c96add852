import IndexSearch.Service.Basic
import IndexSearch.Url.StoreUrl
import IndexSearch.Validation.Scalar

namespace IndexSearch

open Number

/-!
# Settings

What a search session has to know: the service, the key-value server for answers, and how much to
report. Settings are given by name, and those not given are taken from the environment.

* `Settings.ofParts` — checks what is given and what the environment holds;
* `Settings.service` — the service that the settings name.
-/

/-- The settings of a search session. -/
structure Settings where
  /-- The name of the service. -/
  serviceName : Option String
  /-- The key for the service. -/
  apiKey : Option String
  /-- The URL of the service, which counts for more than the name. -/
  endpoint : Option String
  /-- The version of the interface. -/
  apiVersion : String
  /-- The time limit in seconds. -/
  timeout : Binary64
  /-- The URL of the key-value server, if answers are kept. -/
  storeUrl : Option String
  /-- How long answers are kept, in seconds. -/
  cacheTtl : Nat
  /-- Whether to report all there is. -/
  debug : Bool
  /-- What to report at least. -/
  logLevel : String

namespace Checked

/-- Reads a double above zero. -/
def positive (v : Value) : Checked Binary64 := do
  let x ← number v
  if x.isPositive then return x else fault .notPositive

/-- Reads the URL of a key-value server from a text or from bytes. -/
def urlOfStore (v : Value) : Checked String :=
  match text v with
  | .ok s => ofExcept ((StoreUrl.read s.toList).map fun u => String.ofList u.toChars)
  | .error _ => fault .notUrl

end Checked

namespace Settings

/-- The names of the settings. -/
def names : List String :=
  ["service_name", "api_key", "endpoint", "api_version", "timeout", "redis_url", "cache_ttl",
    "debug", "log_level"]

/-- What the names of settings begin with in the environment, where their case does not count. -/
def environmentMark : String := "azquery_"

/-- The settings that the environment holds, under their own names. -/
def ofEnvironment (environment : List (String × String)) : List (Value × Value) :=
  names.filterMap fun name =>
    (environment.find? fun e =>
      e.1.toList.map Char.toLower = (environmentMark ++ name).toList).map fun e =>
      (.text name, .text e.2)

/-- Refuses entries under names that are none of the settings. -/
def onlyKnown (given : List (Value × Value)) : Checked Unit :=
  match (given.map fun e => e.1.plain).filter fun name => !names.contains name with
  | [] => .ok ()
  | unknown => .error (unknown.map fun name => ⟨[name], .unexpected⟩)

open Checked in
/-- Checks the settings in a mapping. -/
def ofEntries (entries : List (Value × Value)) : Checked Settings :=
  ap (.ok Settings.mk) (optional ["service_name"] none (nullable text) entries)
    |> (ap · (optional ["api_key"] none (nullable text) entries))
    |> (ap · (optional ["endpoint"] none (nullable text) entries))
    |> (ap · (optional ["api_version"] Service.defaultApiVersion text entries))
    |> (ap · (optional ["timeout"] Service.defaultTimeout positive entries))
    |> (ap · (optional ["redis_url"] none (nullable urlOfStore) entries))
    |> (ap · (optional ["cache_ttl"] 300 (intFrom 1) entries))
    |> (ap · (optional ["debug"] false bool entries))
    |> (ap · (optional ["log_level"] "INFO" text entries))

/-- Checks the settings given by name together with those of the environment, which count where
    nothing is given. -/
def ofParts (environment : List (String × String)) (given : List (Value × Value)) :
    Checked Settings :=
  Checked.both (fun s () => s) (ofEntries (given ++ ofEnvironment environment)) (onlyKnown given)

/-- An optional text as a value. -/
def optionalText (s : Option String) : Value := (s.map Value.text).getD .null

/-- The service that the settings name. -/
def service (s : Settings) : Except ServiceConfigError Service :=
  Service.ofParts (optionalText s.serviceName) (optionalText s.apiKey) (optionalText s.endpoint)
    (.text s.apiVersion) (.real s.timeout)

end Settings

end IndexSearch
