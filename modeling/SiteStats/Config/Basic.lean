import SiteStats.Config.EnvFile
import SiteStats.Failure

/-!
# Configuration

What is needed to ask for the statistics of a site: a key, the name of the site, where to ask, and
how long to wait. The address never ends in a slash, as the paths of requests are put behind it with
one.

The settings can come from environment variables. An environment file is loaded first: it sets the
variables that are not there yet and leaves all others alone, also those that are empty. What it has
set stays, even if the settings then turn out to be incomplete. One variable of the environment can
switch files off.
-/

namespace SiteStats

open SiteStats.Schema

/-- The settings for one site. -/
structure Config where
  apiKey : String
  siteId : String
  baseUrl : Text
  timeout : Float

namespace Config

/-- Where to ask when nothing else is said. -/
def defaultBaseUrl : String := "https://plausible.io"

/-- How many seconds to wait when nothing else is said. -/
def defaultTimeout : Float := 30

/-- An address without the slashes at its end. -/
def withoutSlashes (url : Text) : Text :=
  ⟨Text.trimEnd (· == .char '/') url.toList⟩

/-- What a configuration is called in messages. -/
def title : String := "ClientConfig"

/-- An object that holds a configuration. -/
def check : Value → Checked Config
  | .object fields =>
    ((Checked.required "api_key" filledText fields).both
      (Checked.required "site_id" filledText fields)).combine
      (fun (apiKey, siteId) (baseUrl, timeout) => ⟨apiKey, siteId, baseUrl, timeout⟩)
      ((Checked.defaulted "base_url" (defaultBaseUrl : Text)
          (fun v => (text v).map withoutSlashes) fields).both
        (Checked.defaulted "timeout" defaultTimeout positiveDouble fields))
  | _ => Checked.flaw (.notModel title)

/-- Reads a configuration. -/
def read (value : Value) : Except Failure Config :=
  (check value).titled title

/-- What stands in the header that identifies the caller. -/
def authorization (config : Config) : String :=
  "Bearer " ++ config.apiKey

/-- The address of a path below the base address. -/
def endpoint (config : Config) (path : String) : Text :=
  config.baseUrl ++ "/" ++ path

end Config

/-! ## Configuration from the environment -/

/-- The variables of an environment with their values. -/
abbrev Environment := List (String × String)

namespace Environment

/-- The variable with the key. -/
def apiKey : String := "PLAUSIBLE_API_KEY"

/-- The variable with the name of the site. -/
def siteId : String := "PLAUSIBLE_SITE_ID"

/-- The variable with the address to ask. -/
def baseUrl : String := "PLAUSIBLE_BASE_URL"

/-- The variable with the time to wait. -/
def timeout : String := "PLAUSIBLE_TIMEOUT"

/-- Sets or, without a value, removes a variable. -/
def assign (name : String) (value : Option String) (environment : Environment) : Environment :=
  match value with
  | some value => EnvFile.set name value environment
  | none => environment.filter fun entry => entry.1 != name

/-- Sets a variable, whose name and value cannot be of every form. -/
def define (name value : String) (environment : Environment) : Except Failure Environment :=
  if name.contains '\x00' ∨ value.contains '\x00' then .error (.environment "embedded null byte")
  else if name.contains '=' then .error (.environment "illegal environment variable name")
  else .ok (environment.assign name value)

/-- Sets those variables that are not there yet, one after the other up to the first that cannot be
set. -/
def fill (environment : Environment) :
    List (String × Option String) → Environment × Except Failure Unit
  | [] => (environment, .ok ())
  | (name, some value) :: rest =>
    if (environment.lookup name).isSome then environment.fill rest
    else
      match environment.define name value with
      | .ok environment => environment.fill rest
      | .error failure => (environment, .error failure)
  | (_, none) :: rest => environment.fill rest

/-- The variable that switches environment files off. -/
def filesOff : String := "PYTHON_DOTENV_DISABLED"

/-- The values that switch environment files off, whatever the case of their letters. -/
def offWords : List String := ["1", "true", "t", "yes", "y"]

/-- A letter of `offWords` in lower case; the long s is an s too. -/
def foldCase (c : Char) : Char :=
  if c = '\u017f' then 's' else c.toLower

/-- Whether environment files are read at all. -/
def readsFiles (environment : Environment) : Bool :=
  match environment.lookup filesOff with
  | some value => value.map foldCase ∉ offWords
  | none => true

/-- Loads an environment file, unless files are switched off. -/
def load (file : String) (environment : Environment) : Environment × Except Failure Unit :=
  if !environment.readsFiles then (environment, .ok ())
  else environment.fill (EnvFile.resolve environment (EnvFile.bindings file))

/-- A double in running text: digits of any script, and blanks around it. -/
def readDouble (value : String) : Except Failure Float :=
  match Numeral.double? (Text.trim Text.isBlank (value.toList.map Text.asciiDigit)) with
  | some x => .ok x
  | none => .error (.notDouble value)

/-- The settings that the variables hold. -/
def readConfig (environment : Environment) : Except Failure Config :=
  let missing := [apiKey, siteId].filter fun name => (environment.lookup name).getD "" = ""
  if missing ≠ [] then .error (.missingEnvironment missing)
  else do
    let timeout ←
      match environment.lookup timeout with
      | some value => readDouble value
      | none => .ok Config.defaultTimeout
    let part (name : String) := Value.text ((environment.lookup name).getD "")
    Config.read (.object [
      ("api_key", part apiKey),
      ("site_id", part siteId),
      ("base_url", .text ((environment.lookup baseUrl).getD Config.defaultBaseUrl)),
      ("timeout", .float timeout)])

/-- Loads an environment file and reads the settings. -/
def configure (file : String) (environment : Environment) : Environment × Except Failure Config :=
  match environment.load file with
  | (environment, .ok ()) => (environment, environment.readConfig)
  | (environment, .error failure) => (environment, .error failure)

end Environment

end SiteStats
