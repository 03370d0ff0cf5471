import ControlPlane.Json.Printer
import ControlPlane.Json.Record
import ControlPlane.Setting
import ControlPlane.Text.Blank

/-!
# Client settings

Everything a client may be told about itself: where the workspace is, who the caller is by each of
the supported ways, and how to send. Several identities may be filled in at once; the authenticators
decide which one counts. A `Config` is read from JSON, written to JSON, and shown in debug texts
without its secrets.
-/

namespace ControlPlane

structure AzureConfig where
  resourceId : Option String := none
  /-- The application id of a service principal. -/
  clientId : Option String := none
  clientSecret : Option String := none
  tenantId : Option String := none
  /-- Where to log in, for sovereign clouds. -/
  loginEndpoint : Option String := none
  deriving DecidableEq, Repr, Inhabited

structure GoogleConfig where
  /-- The email address of the account. -/
  serviceAccount : Option String := none
  /-- The key of the account: a path, or the key file's text itself. -/
  credentials : Option String := none
  deriving DecidableEq, Repr, Inhabited

/-- Requests per second, where nothing else is said. -/
def defaultRateLimit : Nat := 15

def defaultTimeoutSeconds : Nat := 60

/-- Characters of a body shown in logs, where nothing else is said. -/
def defaultTruncation : Nat := 96

def defaultProfileFile : String := "~/.databrickscfg"

def defaultProfile : String := "DEFAULT"

def defaultLoginEndpoint : String := "https://login.microsoftonline.com"

structure Config where
  /-- Workspace or accounts host, with or without a scheme. -/
  host : Option String := none
  /-- Personal access token. -/
  token : Option String := none
  username : Option String := none
  password : Option String := none
  /-- The profile to read from the profile file. -/
  profile : Option String := none
  configFile : Option String := none
  /-- The account, for the accounts API. -/
  accountId : Option String := none
  azure : AzureConfig := {}
  google : GoogleConfig := {}
  insecureSkipVerify : Bool := false
  httpTimeoutSeconds : Nat := defaultTimeoutSeconds
  rateLimitPerSecond : Nat := defaultRateLimit
  /-- Characters of a body shown in logs. -/
  debugTruncateBytes : Nat := defaultTruncation
  debugHeaders : Bool := false
  deriving DecidableEq, Repr, Inhabited

/-- The login endpoint, without slashes at its end. -/
def AzureConfig.effectiveLoginEndpoint (azure : AzureConfig) : String :=
  let endpoint := (nonEmpty azure.loginEndpoint).getD defaultLoginEndpoint
  String.ofList (Text.dropEndWhile (· = '/') endpoint.toList)

namespace Config

/-- Seconds one attempt may take; zero stands for the default. -/
def timeoutSeconds (config : Config) : Nat :=
  if config.httpTimeoutSeconds = 0 then defaultTimeoutSeconds else config.httpTimeoutSeconds

/-- Requests per second; zero stands for the default. -/
def rateLimit (config : Config) : Nat :=
  if config.rateLimitPerSecond = 0 then defaultRateLimit else config.rateLimitPerSecond

end Config

/-! ## JSON -/

open Json

/-- A setting in JSON. -/
def settingValue : Option String → Value
  | none => .null
  | some text => .string text

/-- A setting that is a text or `null`. -/
def settingField {ρ : Type} (name : String) (set : Option String → ρ → ρ) : Json.Field ρ :=
  Field.of name (Decoder.optional Decoder.string) set

def AzureConfig.schema : Schema AzureConfig where
  fields := [
    settingField "resource_id" fun value azure => { azure with resourceId := value },
    settingField "client_id" fun value azure => { azure with clientId := value },
    settingField "client_secret" fun value azure => { azure with clientSecret := value },
    settingField "tenant_id" fun value azure => { azure with tenantId := value },
    settingField "login_endpoint" fun value azure => { azure with loginEndpoint := value }]
  leastItems := 0

def AzureConfig.decoder : Decoder AzureConfig :=
  AzureConfig.schema.decoder {}

def AzureConfig.toValue (azure : AzureConfig) : Value :=
  .object [
    ("resource_id", settingValue azure.resourceId),
    ("client_id", settingValue azure.clientId),
    ("client_secret", settingValue azure.clientSecret),
    ("tenant_id", settingValue azure.tenantId),
    ("login_endpoint", settingValue azure.loginEndpoint)]

def GoogleConfig.schema : Schema GoogleConfig where
  fields := [
    settingField "service_account" fun value google => { google with serviceAccount := value },
    settingField "credentials" fun value google => { google with credentials := value }]
  leastItems := 0

def GoogleConfig.decoder : Decoder GoogleConfig :=
  GoogleConfig.schema.decoder {}

def GoogleConfig.toValue (google : GoogleConfig) : Value :=
  .object [
    ("service_account", settingValue google.serviceAccount),
    ("credentials", settingValue google.credentials)]

namespace Config

def schema : Schema Config where
  fields := [
    settingField "host" fun value config => { config with host := value },
    settingField "token" fun value config => { config with token := value },
    settingField "username" fun value config => { config with username := value },
    settingField "password" fun value config => { config with password := value },
    settingField "profile" fun value config => { config with profile := value },
    settingField "config_file" fun value config => { config with configFile := value },
    settingField "account_id" fun value config => { config with accountId := value },
    Field.of "azure" AzureConfig.decoder fun value config => { config with azure := value },
    Field.of "google" GoogleConfig.decoder fun value config => { config with google := value },
    Field.of "insecure_skip_verify" Decoder.bool fun value config =>
      { config with insecureSkipVerify := value },
    Field.of "http_timeout_seconds" (Decoder.natural 64) fun value config =>
      { config with httpTimeoutSeconds := value },
    Field.of "rate_limit_per_second" (Decoder.natural 32) fun value config =>
      { config with rateLimitPerSecond := value },
    Field.of "debug_truncate_bytes" (Decoder.natural 64) fun value config =>
      { config with debugTruncateBytes := value },
    Field.of "debug_headers" Decoder.bool fun value config =>
      { config with debugHeaders := value }]
  leastItems := 0

def decoder : Decoder Config :=
  schema.decoder {}

/-- The settings that a JSON text gives; the others keep their defaults. -/
def parse? (text : String) : Option Config :=
  decoder.decode? (Bytes.ofString text)

/-- The settings in JSON, every one of them. -/
def toValue (config : Config) : Value :=
  .object [
    ("host", settingValue config.host),
    ("token", settingValue config.token),
    ("username", settingValue config.username),
    ("password", settingValue config.password),
    ("profile", settingValue config.profile),
    ("config_file", settingValue config.configFile),
    ("account_id", settingValue config.accountId),
    ("azure", config.azure.toValue),
    ("google", config.google.toValue),
    ("insecure_skip_verify", .bool config.insecureSkipVerify),
    ("http_timeout_seconds", .number (.natural config.httpTimeoutSeconds)),
    ("rate_limit_per_second", .number (.natural config.rateLimitPerSecond)),
    ("debug_truncate_bytes", .number (.natural config.debugTruncateBytes)),
    ("debug_headers", .bool config.debugHeaders)]

end Config

/-! ## Debug texts -/

open Text

def debugSetting (setting : Option String) : String :=
  debugOption quoted setting

/-- A secret in a debug text: only whether it is there. -/
def debugSecret (setting : Option String) : String :=
  debugSetting (setting.map fun _ => "***")

def AzureConfig.debugText (azure : AzureConfig) : String :=
  debugRecord "AzureConfig" [
    ("resource_id", debugSetting azure.resourceId),
    ("client_id", debugSetting azure.clientId),
    ("client_secret", debugSecret azure.clientSecret),
    ("tenant_id", debugSetting azure.tenantId),
    ("login_endpoint", debugSetting azure.loginEndpoint)] false

def GoogleConfig.debugText (google : GoogleConfig) : String :=
  debugRecord "GoogleConfig" [
    ("service_account", debugSetting google.serviceAccount),
    ("credentials", debugSetting google.credentials)] false

def debugBool (value : Bool) : String :=
  if value then "true" else "false"

def Config.debugText (config : Config) : String :=
  debugRecord "ClientConfig" [
    ("host", debugSetting config.host),
    ("token", debugSecret config.token),
    ("username", debugSetting config.username),
    ("password", debugSecret config.password),
    ("profile", debugSetting config.profile),
    ("config_file", debugSetting config.configFile),
    ("account_id", debugSetting config.accountId),
    ("azure", config.azure.debugText),
    ("google", config.google.debugText),
    ("insecure_skip_verify", debugBool config.insecureSkipVerify),
    ("http_timeout_seconds", toString config.httpTimeoutSeconds),
    ("rate_limit_per_second", toString config.rateLimitPerSecond)] true

end ControlPlane
