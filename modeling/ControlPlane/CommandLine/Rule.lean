import ControlPlane.Overrides

/-!
# Options of the command line

What each option is called, which environment variable stands in for it, and what it does with its
value. Every option but the two that carry a JSON text may stand before or after the command.
-/

namespace ControlPlane.CommandLine

/-- Why a command line asks for nothing that can be done. -/
inductive Usage where
  | missingCommand
  | missingArgument
  | unknownArgument
  | unknownCommand
  /-- A value that is missing or none of those allowed. -/
  | invalidValue
  /-- A value that is not of the form required. -/
  | malformedValue
  /-- An option given twice at one place. -/
  | repeatedOption
  /-- A value for an option that takes none. -/
  | surplusValue
  | help
  | version
  /-- Nothing is asked for at all, so help is shown. -/
  | helpInstead
  deriving DecidableEq, Repr

/-- What the caller is told. -/
def Usage.message : Usage → String
  | .missingCommand => "a command is required: auth, get or request"
  | .missingArgument => "a required argument is missing"
  | .unknownArgument => "an argument is not known here"
  | .unknownCommand => "there is no such command"
  | .invalidValue => "an option has no value, or none of those allowed"
  | .malformedValue => "the value of an option is not of the required form"
  | .repeatedOption => "an option is given more than once"
  | .surplusValue => "an option takes no value"
  | .help | .helpInstead =>
    "usage: dbx [OPTIONS] auth\n       dbx [OPTIONS] get PATH [--query JSON]\n" ++
      "       dbx [OPTIONS] request METHOD PATH [--body JSON]"
  | .version => "dbx 0.1.0"

inductive Format where
  | compact
  | pretty
  deriving DecidableEq, Repr

/-- What options say. -/
structure Given where
  config : Option String := none
  format : Option Format := none
  verbose : Bool := false
  overrides : Overrides := {}
  /-- The JSON text that goes with a request. -/
  payload : Option String := none
  deriving DecidableEq, Repr

/-- What is said at the first place, and where that says nothing, at the second. -/
def Given.orElse (first second : Given) : Given where
  config := first.config.or second.config
  format := first.format.or second.format
  verbose := first.verbose || second.verbose
  overrides := first.overrides.orElse second.overrides
  payload := first.payload.or second.payload

/-- What an option does. -/
inductive Effect where
  | switch (set : Given → Given)
  | value (read : String → Except Usage (Given → Given))
  | stop (usage : Usage)

structure Rule where
  long : String
  short : Option Char := none
  /-- The environment variable that stands in for it. -/
  environmentName : Option String := none
  effect : Effect

/-- Changes the overrides among what is given. -/
def Given.override (set : Overrides → Overrides) (given : Given) : Given :=
  { given with overrides := set given.overrides }

def textRule (long variableName : String) (set : Option String → Overrides → Overrides) : Rule where
  long := long
  environmentName := variableName
  effect := .value fun text => .ok (Given.override (set (some text)))

def switchRule (long : String) (set : Overrides → Overrides) : Rule where
  long := long
  effect := .switch (Given.override set)

/-- The number that decimal digits write, if it is at most `most`. -/
def digits? (most : Nat) (digits : List Char) : Option Nat :=
  if digits.isEmpty || !digits.all Char.isDigit then none
  else
    let value := digits.foldl (fun acc c => acc * 10 + (c.toNat - 0x30)) 0
    if value ≤ most then some value else none

/-- A natural number of a bounded size, which may have a plus sign; a minus sign may stand only
before zero, and only for a number that is read with a sign. -/
def natural? (bits : Nat) (isSigned : Bool) (text : String) : Option Nat :=
  match text.toList with
  | '+' :: digits => digits? ((1 <<< bits) - 1) digits
  | '-' :: digits => if isSigned then digits? 0 digits else none
  | digits => digits? ((1 <<< bits) - 1) digits

def naturalRule (long : String) (bits : Nat) (isSigned : Bool)
    (set : Option Nat → Overrides → Overrides) : Rule where
  long := long
  effect := .value fun text =>
    match natural? bits isSigned text with
    | some value => .ok (Given.override (set (some value)))
    | none => .error .malformedValue

/-- The path of the settings, which may not be empty. -/
def configRule : Rule where
  long := "config"
  short := 'C'
  effect := .value fun text =>
    if text.isEmpty then .error .invalidValue
    else .ok fun given => { given with config := some text }

def formatRule : Rule where
  long := "format"
  short := 'f'
  effect := .value fun text =>
    if text = "json" then .ok fun given => { given with format := some .compact }
    else if text = "pretty" then .ok fun given => { given with format := some .pretty }
    else .error .invalidValue

def verboseRule : Rule where
  long := "verbose"
  short := 'v'
  effect := .switch fun given => { given with verbose := true }

/-- An option that takes the JSON text of a request. -/
def payloadRule (long : String) : Rule where
  long := long
  effect := .value fun text => .ok fun given => { given with payload := some text }

def helpRule : Rule where
  long := "help"
  short := 'h'
  effect := .stop .help

def versionRule : Rule where
  long := "version"
  short := 'V'
  effect := .stop .version

/-- The options that override settings. -/
def overrideRules : List Rule := [
  textRule "host" "DATABRICKS_HOST" fun text given => { given with host := text },
  textRule "token" "DATABRICKS_TOKEN" fun text given => { given with token := text },
  textRule "username" "DATABRICKS_USERNAME" fun text given => { given with username := text },
  textRule "password" "DATABRICKS_PASSWORD" fun text given => { given with password := text },
  textRule "profile" "DATABRICKS_CONFIG_PROFILE" fun text given => { given with profile := text },
  textRule "config-file" "DATABRICKS_CONFIG_FILE" fun text given =>
    { given with configFile := text },
  textRule "account-id" "DATABRICKS_ACCOUNT_ID" fun text given => { given with accountId := text },
  textRule "azure-workspace-resource-id" "DATABRICKS_AZURE_WORKSPACE_RESOURCE_ID" fun text given =>
    { given with azureResourceId := text },
  textRule "azure-client-id" "ARM_CLIENT_ID" fun text given => { given with azureClientId := text },
  textRule "azure-client-secret" "ARM_CLIENT_SECRET" fun text given =>
    { given with azureClientSecret := text },
  textRule "azure-tenant-id" "ARM_TENANT_ID" fun text given => { given with azureTenantId := text },
  textRule "google-service-account" "DATABRICKS_GOOGLE_SERVICE_ACCOUNT" fun text given =>
    { given with googleServiceAccount := text },
  textRule "google-credentials" "GOOGLE_CREDENTIALS" fun text given =>
    { given with googleCredentials := text },
  switchRule "insecure-skip-verify" fun given => { given with insecureSkipVerify := true },
  naturalRule "http-timeout-seconds" 64 false fun value given =>
    { given with httpTimeoutSeconds := value },
  naturalRule "rate-limit" 32 true fun value given => { given with rateLimit := value },
  naturalRule "debug-truncate-bytes" 64 false fun value given =>
    { given with debugTruncateBytes := value },
  switchRule "debug-headers" fun given => { given with debugHeaders := true }]

/-- The options that may stand anywhere. -/
def commonRules : List Rule :=
  [configRule, formatRule, verboseRule] ++ overrideRules ++ [helpRule]

def environmentNames : List String :=
  commonRules.filterMap Rule.environmentName

/-- What the environment gives for an option. -/
def Rule.fromEnvironment (environment : String → Option String) (rule : Rule) :
    Option (Given → Given) :=
  match rule.environmentName.bind environment, rule.effect with
  | some text, .value read => (read text).toOption
  | _, _ => none

def Given.ofEnvironment (environment : String → Option String) : Given :=
  (commonRules.filterMap (Rule.fromEnvironment environment)).foldl (fun given set => set given) {}

end ControlPlane.CommandLine
