import ControlPlane.Config

/-!
# Overrides

What the command line and the environment say about a client's settings. A text that is given and
not empty replaces the setting, a number replaces it even if it is zero, and a switch only ever
turns its setting on.
-/

namespace ControlPlane

structure Overrides where
  host : Option String := none
  token : Option String := none
  username : Option String := none
  password : Option String := none
  profile : Option String := none
  configFile : Option String := none
  accountId : Option String := none
  azureResourceId : Option String := none
  azureClientId : Option String := none
  azureClientSecret : Option String := none
  azureTenantId : Option String := none
  googleServiceAccount : Option String := none
  googleCredentials : Option String := none
  insecureSkipVerify : Bool := false
  httpTimeoutSeconds : Option Nat := none
  rateLimit : Option Nat := none
  debugTruncateBytes : Option Nat := none
  debugHeaders : Bool := false
  deriving DecidableEq, Repr

namespace Overrides

/-- A setting after a text was given for it. -/
def replace (given setting : Option String) : Option String :=
  (nonEmpty given).or setting

/-- The settings after the overrides. -/
def apply (overrides : Overrides) (config : Config) : Config :=
  { host := replace overrides.host config.host
    token := replace overrides.token config.token
    username := replace overrides.username config.username
    password := replace overrides.password config.password
    profile := replace overrides.profile config.profile
    configFile := replace overrides.configFile config.configFile
    accountId := replace overrides.accountId config.accountId
    azure :=
      { config.azure with
        resourceId := replace overrides.azureResourceId config.azure.resourceId
        clientId := replace overrides.azureClientId config.azure.clientId
        clientSecret := replace overrides.azureClientSecret config.azure.clientSecret
        tenantId := replace overrides.azureTenantId config.azure.tenantId }
    google :=
      { serviceAccount := replace overrides.googleServiceAccount config.google.serviceAccount
        credentials := replace overrides.googleCredentials config.google.credentials }
    insecureSkipVerify := config.insecureSkipVerify || overrides.insecureSkipVerify
    httpTimeoutSeconds := overrides.httpTimeoutSeconds.getD config.httpTimeoutSeconds
    rateLimitPerSecond := overrides.rateLimit.getD config.rateLimitPerSecond
    debugTruncateBytes := overrides.debugTruncateBytes.getD config.debugTruncateBytes
    debugHeaders := config.debugHeaders || overrides.debugHeaders }

/-- What the first overrides say, and where they say nothing, what the second do. -/
def orElse (first second : Overrides) : Overrides where
  host := first.host.or second.host
  token := first.token.or second.token
  username := first.username.or second.username
  password := first.password.or second.password
  profile := first.profile.or second.profile
  configFile := first.configFile.or second.configFile
  accountId := first.accountId.or second.accountId
  azureResourceId := first.azureResourceId.or second.azureResourceId
  azureClientId := first.azureClientId.or second.azureClientId
  azureClientSecret := first.azureClientSecret.or second.azureClientSecret
  azureTenantId := first.azureTenantId.or second.azureTenantId
  googleServiceAccount := first.googleServiceAccount.or second.googleServiceAccount
  googleCredentials := first.googleCredentials.or second.googleCredentials
  insecureSkipVerify := first.insecureSkipVerify || second.insecureSkipVerify
  httpTimeoutSeconds := first.httpTimeoutSeconds.or second.httpTimeoutSeconds
  rateLimit := first.rateLimit.or second.rateLimit
  debugTruncateBytes := first.debugTruncateBytes.or second.debugTruncateBytes
  debugHeaders := first.debugHeaders || second.debugHeaders

end Overrides

end ControlPlane
