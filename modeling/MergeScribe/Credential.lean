import MergeScribe.Http.Uri
import MergeScribe.System.Basic
import MergeScribe.Text.Case

/-!
# Credentials

The token for a host comes from the first source that has one: the bot's own variable, the variable
of the host, the general variables (these only for github.com), and the credential helper. A blank
value counts as none.
-/

namespace MergeScribe

namespace Credential

/-- The host of GitHub itself. -/
def defaultHost : Text := "github.com"

/-- The variable with the bot's own token, which is for any host. -/
def ownVariable : Text := "GITHUB_ACCESS_TOKEN"

/-- The variables with general tokens, which are for github.com. -/
def generalVariables : List Text :=
  ["GITHUB_TOKEN", "GH_TOKEN"]

/-- The variable with the token of a host. -/
def hostVariable (host : Text) : Text :=
  "GITHUB_TOKEN_" ++ Text.upper (host.map fun c => if c = '.' ∨ c = '-' then '_' else c)

/-- The variables to look at for a host, in order. -/
def variablesOf (host : Text) : List Text :=
  ownVariable :: hostVariable host :: if host = defaultHost then generalVariables else []

/-- The first value among variables that is not blank. -/
def firstVariable : List Text → Program System (Option Text)
  | [] => return none
  | name :: more => do
    match (← System.getVariable name).filter fun value => !Text.isBlank value with
    | some value => return some value
    | none => firstVariable more

/-- What the helper is run with. -/
def helperArguments (host : Text) : List Text :=
  ["auth", "token", "--hostname", host]

/-- That no source has a token. -/
def missing (host : Text) : Text :=
  "No token found for host '" ++ host ++ "'. Set " ++ ownVariable ++ " or " ++ hostVariable host
    ++ ", or run 'gh auth login --hostname " ++ host ++ "'"

/-- Ask the credential helper. A host with a null character cannot be passed to it. -/
def askHelper (host : Text) : Program System (Except Text Text) := do
  if host.contains '\x00' then return .error (missing host)
  match ← System.runHelper (helperArguments host) with
  | none => return .error (missing host)
  | some answer =>
    if HelperOutput.success answer then
      match Text.ofBytes? (HelperOutput.output answer) with
      | none => return .error "Invalid UTF-8 in gh auth token output"
      | some said =>
        if Text.isBlank said then return .error (missing host) else return .ok (Text.trim said)
    else return .error (missing host)

/-- The token for a host; without a host for github.com. -/
def token (host : Option Text) : Program System (Except Text Text) := do
  let host := host.getD defaultHost
  match ← firstVariable (variablesOf host) with
  | some value => return .ok value
  | none => askHelper host

/-- Whether requests can be addressed to a host. -/
def isReachable (host : Option Text) : Bool :=
  match host with
  | none => true
  | some host => host == defaultHost || Uri.isBase (host ++ "/api/v3")

/-- A connection with a token that is known. -/
def connection (host : Option Text) (token : Text) : Except Text Connection :=
  if isReachable host then .ok ⟨host, token⟩ else .error "Failed to set base URI"

/-- A connection to a host. -/
def connect (host : Option Text) : Program System (Except Text Connection) := do
  match ← token host with
  | .error message => return .error message
  | .ok token => return connection host token

end Credential

end MergeScribe
