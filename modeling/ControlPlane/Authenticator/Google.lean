import ControlPlane.Authenticator.Basic
import ControlPlane.Endpoint
import ControlPlane.ServiceAccount
import ControlPlane.Workspace

/-!
# Google credentials

A service account exchanges a signed assertion for an identity token whose audience is the host. The
accounts surface wants an access token of the same account as well; both are kept together and
fetched again as soon as one of them ends.
-/

namespace ControlPlane.Authenticator

/-- The part of the platform that is called. -/
inductive Surface where
  | accounts
  | workspace
  deriving DecidableEq, Repr

namespace Surface

def text : Surface → String
  | .accounts => "accounts"
  | .workspace => "workspace"

def kind : Surface → AuthKind
  | .accounts => .googleAccounts
  | .workspace => .googleWorkspace

/-- The surface that settings speak of. -/
def ofConfig (config : Config) : Surface :=
  let host := (nonEmpty config.host).getD ""
  if Workspace.isAccountsHost host || (nonEmpty config.accountId).isSome then .accounts
  else .workspace

end Surface

/-- The header with the access token. -/
def accessTokenHeader : String := "X-Databricks-GCP-SA-Access-Token"

/-- What the access token is good for. -/
def platformScope : String := "https://www.googleapis.com/auth/cloud-platform"

/-- What a token endpoint is asked to do with an assertion. -/
def assertionGrant : String := "urn:ietf:params:oauth:grant-type:jwt-bearer"

/-- A service account that asks for tokens. -/
structure GoogleAccount where
  key : ServiceAccountKey
  /-- The host that the identity token is for. -/
  audience : String
  surface : Surface
  deriving DecidableEq, Repr

namespace GoogleAccount

variable [Wording]

/-- Exchanges an assertion of one claim for a grant. -/
def exchange (account : GoogleAccount) (claim value : String) : Attempt Endpoint.Grant := do
  let now ← (Program.wallClock : Program _)
  let assertion ← Attempt.ofExcept (account.key.assertion (now.nanos / Instant.second) claim value)
  let response ← Endpoint.post account.key.effectiveTokenUri
    [("grant_type", assertionGrant), ("assertion", assertion)]
  if !response.isSuccess then
    Attempt.fail (.jwt ("JWT token exchange failed with status " ++ toString response.status ++
      ": " ++ response.text))
  Endpoint.grantOf response

def identityToken (account : GoogleAccount) : Attempt Token := do
  let grant ← account.exchange "target_audience" account.audience
  match grant.idToken with
  | none => Attempt.fail (.oauth "Google token response has no id_token")
  | some text =>
    Endpoint.lastingToken text (grant.expiresIn.getD ServiceAccountKey.assertionSeconds)

def accessToken (account : GoogleAccount) : Attempt Token := do
  let grant ← account.exchange "scope" platformScope
  match ← Endpoint.accessTokenOf grant with
  | none => Attempt.fail (.oauth "Google token response has no access_token")
  | some token => return token

/-- An identity token that carries an access token in a header and ends with the first of both. -/
def joinTokens (identity access : Token) : Token :=
  let expiry := match access.expiresAt, identity.expiresAt with
    | some a, some b => some ⟨min a.nanos b.nanos⟩
    | _, other => other
  { identity with expiresAt := expiry }.withHeader accessTokenHeader access.text

/-- The tokens of an account, as one. -/
def token (account : GoogleAccount) : TokenSource := do
  let identity ← account.identityToken
  match account.surface with
  | .workspace => return identity
  | .accounts => return joinTokens identity (← account.accessToken)

end GoogleAccount

variable [Wording]

/-- Reads the key that the settings name and checks that it is of the account they name. -/
def loadKey (config : Config) (serviceAccount : String) : Attempt ServiceAccountKey := do
  match nonEmpty config.google.credentials with
  | none => Attempt.fail (.missingField "google_credentials")
  | some credentials =>
    let key ← Attempt.ofExcept (← (ServiceAccountKey.load credentials : Program _))
    if key.clientEmail ≠ serviceAccount then
      Attempt.fail (.config ("google_credentials belong to " ++ key.clientEmail ++ ", not to " ++
        serviceAccount))
    return key

def google (surface : Surface) : Authenticator :=
  ofReader ("google-" ++ surface.text) fun config => do
    match nonEmpty config.google.serviceAccount with
    | none => return none
    | some serviceAccount =>
      if Surface.ofConfig config ≠ surface then
        return none
      requireHost config "google_service_account"
      let key ← loadKey config serviceAccount
      let account : GoogleAccount :=
        { key := key
          audience := Workspace.normalizeHost ((nonEmpty config.host).getD "")
          surface := surface }
      let token ← account.token
      announce ("Using Google service account " ++ serviceAccount ++ " for the " ++ surface.text ++
        " API")
      return some ⟨surface.kind, .refreshing { source := account.token, cached := token }⟩

def googleAccounts : Authenticator := google .accounts

def googleWorkspace : Authenticator := google .workspace

end ControlPlane.Authenticator
