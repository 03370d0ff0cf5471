import ControlPlane.Authenticator.Basic
import ControlPlane.Endpoint
import ControlPlane.Time.WallClock
import ControlPlane.Wording

/-!
# Azure credentials

A service principal exchanges its secret for a token at the login endpoint of its tenant; or the
command line tool of the cloud, if it is installed and logged in, gives one. Either token goes with
the resource id of the workspace, if that is known.
-/

namespace ControlPlane.Authenticator

/-- The application that tokens are asked for. -/
def azureApplication : String := "2ff814a6-3304-4ab8-85cb-cd0e6f879c1d"

/-- The header with the resource id of the workspace. -/
def resourceIdHeader : String := "X-Databricks-Azure-Workspace-Resource-Id"

/-! ## Service principals -/

structure Principal where
  tokenUrl : String
  clientId : String
  clientSecret : String
  deriving DecidableEq, Repr

/-- The principal in the settings, if they name application, secret and tenant. -/
def principal? (azure : AzureConfig) : Option Principal :=
  match nonEmpty azure.clientId, nonEmpty azure.clientSecret, nonEmpty azure.tenantId with
  | some clientId, some clientSecret, some tenantId =>
    some ⟨azure.effectiveLoginEndpoint ++ "/" ++ tenantId ++ "/oauth2/v2.0/token", clientId,
      clientSecret⟩
  | _, _, _ => none

def Principal.form (principal : Principal) : List (String × String) :=
  [("grant_type", "client_credentials"), ("client_id", principal.clientId),
   ("client_secret", principal.clientSecret), ("scope", azureApplication ++ "/.default")]

/-- A token for a principal. -/
def Principal.token (principal : Principal) : TokenSource := do
  let response ← Endpoint.post principal.tokenUrl principal.form
  if !response.isSuccess then
    Attempt.fail (.oauth ("Azure AD token request failed with status " ++
      toString response.status ++ ": " ++ response.text))
  let grant ← Endpoint.grantOf response
  match ← Endpoint.accessTokenOf grant with
  | some token => return token
  | none => Attempt.fail (.oauth "Azure AD response has no access_token")

/-- A signer for a source of tokens, whose token goes with the resource id if there is one. -/
def azureSigner (kind : AuthKind) (source : TokenSource) (token : Token)
    (resourceId : Option String) : Except Error Signer := do
  let plain : TokenSigner := { source := source, cached := token }
  let signer ← match resourceId with
    | none => pure plain
    | some resourceId => plain.withHeader resourceIdHeader resourceId
  return ⟨kind, .refreshing signer⟩

def azureClientSecret : Authenticator :=
  ofReader "azure-client-secret" fun config => do
    match principal? config.azure with
    | none => return none
    | some principal =>
      requireHost config "azure_client_secret"
      let token ← principal.token
      announce ("Using Azure service principal authentication for client " ++ principal.clientId)
      let signer ← Attempt.ofExcept
        (azureSigner .azureClientSecret principal.token token (nonEmpty config.azure.resourceId))
      return some signer

/-! ## The command line tool -/

/-- The program that gives tokens. -/
def azureProgram : String := "az"

def azureArguments : List String :=
  ["account", "get-access-token", "--resource", azureApplication, "--output", "json"]

/-- What the program prints: a token, and its end as a wall clock text or in seconds. -/
structure PrintedToken where
  accessToken : Option String := none
  expiresOn : Option String := none
  expiresOnSeconds : Option Int := none
  deriving DecidableEq, Repr

open Json in
/-- An array must give the token. -/
def PrintedToken.schema : Schema PrintedToken where
  fields := [
    Field.of "accessToken" Decoder.string fun value token =>
      { token with accessToken := some value },
    Field.of "expiresOn" (Decoder.optional Decoder.string) fun value token =>
      { token with expiresOn := value },
    Field.of "expires_on" (Decoder.optional Decoder.integer) fun value token =>
      { token with expiresOnSeconds := value }]
  leastItems := 1

/-- When a printed token ends: the seconds count if the calendar has them, then the text. -/
def PrintedToken.expiry (token : PrintedToken) : Option Instant :=
  (token.expiresOnSeconds.bind Instant.ofSeconds?).or (token.expiresOn.bind WallClock.parse?)

/-- The token that was printed. -/
def readPrinted? (octets : Bytes) : Option Token :=
  ((PrintedToken.schema.decoder {}).decode? octets).bind fun printed =>
    printed.accessToken.map fun text => { text := text, expiresAt := printed.expiry }

def azureError (message : String) : Error :=
  .command azureProgram message

variable [Wording]

/-- What an output that is no token is said to be. -/
def unreadable (octets : Bytes) : String :=
  "unexpected output: " ++ Wording.json (PrintedToken.schema.decoder {}) octets

/-- Runs the program; no token if it is not installed. -/
def runAzure : Attempt (Option Token) := do
  (Program.debug ("Running " ++ azureProgram ++ " " ++ " ".intercalate azureArguments) :
    Program Unit)
  match ← (Program.runCommand azureProgram azureArguments : Program _) with
  | .error .notInstalled => return none
  | .error (.other message) => Attempt.fail (azureError message)
  | .ok output =>
    if !output.succeeded then
      let text := (Bytes.lossy output.stderr).toList
      Attempt.fail (azureError (String.ofList (Text.trim text)))
    match readPrinted? output.stdout with
    | some token => return some token
    | none => Attempt.fail (azureError (unreadable output.stdout))

/-- A token of the program, which was installed before. -/
def azureCliToken : TokenSource := do
  match ← runAzure with
  | some token => return token
  | none => Attempt.fail (azureError "no longer available on PATH")

def azureCli : Authenticator :=
  ofReader "azure-cli" fun config => do
    match nonEmpty config.azure.resourceId with
    | none => return none
    | some resourceId =>
      requireHost config "azure_cli"
      match ← runAzure with
      | none =>
        announce "Azure CLI is not installed, skipping azure-cli authentication"
        return none
      | some token =>
        announce "Using Azure CLI authentication"
        let signer ← Attempt.ofExcept (azureSigner .azureCli azureCliToken token (some resourceId))
        return some signer

end ControlPlane.Authenticator
