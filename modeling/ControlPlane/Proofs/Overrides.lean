import ControlPlane.CommandLine
import ControlPlane.Proofs.Program.Runs
import ControlPlane.Proofs.Setting

/-!
# What overrides do to settings

The settings that a command line may override are named one by one. Read by these names, settings and
overrides are functions, and each kind of setting has one rule by which what is given and what stood
there come to what stands there afterwards. The laws of overrides are then laws of three rules. One
setting has no name here, the endpoint to log in at: nothing overrides it.
-/

namespace ControlPlane

inductive TextSetting where
  | host
  | token
  | username
  | password
  | profile
  | configFile
  | accountId
  | azureResourceId
  | azureClientId
  | azureClientSecret
  | azureTenantId
  | googleServiceAccount
  | googleCredentials
  deriving DecidableEq

inductive NumberSetting where
  | httpTimeoutSeconds
  | rateLimitPerSecond
  | debugTruncateBytes
  deriving DecidableEq

inductive SwitchSetting where
  | insecureSkipVerify
  | debugHeaders
  deriving DecidableEq

/-- A setting that can be overridden. -/
inductive Setting where
  | text (name : TextSetting)
  | number (name : NumberSetting)
  | switch (name : SwitchSetting)
  deriving DecidableEq

namespace Setting

abbrev Value : Setting → Type
  | .text _ => Option String
  | .number _ => Nat
  | .switch _ => Bool

/-- What overrides may say about a setting. -/
abbrev Given : Setting → Type
  | .text _ => Option String
  | .number _ => Option Nat
  | .switch _ => Bool

/-- What a setting comes to. -/
def settle : (setting : Setting) → setting.Given → setting.Value → setting.Value
  | .text _, given, value => (nonEmpty given).or value
  | .number _, given, value => given.getD value
  | .switch _, given, value => value || given

/-- What two overrides say about a setting, where the first takes precedence if it has a say. -/
def prefer : (setting : Setting) → setting.Given → setting.Given → setting.Given
  | .text _, first, second => (nonEmpty first).or second
  | .number _, first, second => first.or second
  | .switch _, first, second => first || second

theorem settle_text_of_given {name : TextSetting} {text : String} (value : Option String)
    (hgiven : text ≠ "") : settle (.text name) (some text) value = some text := by
  rw [settle, nonEmpty_eq_some_iff.mpr ⟨rfl, hgiven⟩, Option.some_or]

theorem settle_text_of_empty {name : TextSetting} {given : Option String} (value : Option String)
    (hgiven : ∀ text, given = some text → text = "") : settle (.text name) given value = value := by
  rw [settle, nonEmpty_eq_none_iff.mpr hgiven, Option.none_or]

theorem settle_settle (setting : Setting) (later first : setting.Given) (value : setting.Value) :
    setting.settle later (setting.settle first value) =
      setting.settle (setting.prefer later first) value := by
  cases setting with
  | text name =>
      cases hlater : nonEmpty later with
      | none => simp only [settle, prefer, hlater, Option.none_or]
      | some text =>
          have hsome : nonEmpty (some text) = some text :=
            nonEmpty_eq_some_iff.mpr ⟨rfl, (nonEmpty_eq_some_iff.mp hlater).2⟩
          simp only [settle, prefer, hlater, Option.some_or, hsome]
  | number name => cases later <;> rfl
  | switch name => cases later <;> simp [settle, prefer]

theorem settle_self (setting : Setting) (given : setting.Given) (value : setting.Value) :
    setting.settle given (setting.settle given value) = setting.settle given value := by
  cases setting with
  | text name => simp only [settle, ← Option.or_assoc, Option.or_self]
  | number name => cases given <;> rfl
  | switch name => simp only [settle, Bool.or_assoc, Bool.or_self]

end Setting

/-! ### Settings and overrides by name -/

def Config.get (config : Config) : (setting : Setting) → setting.Value
  | .text .host => config.host
  | .text .token => config.token
  | .text .username => config.username
  | .text .password => config.password
  | .text .profile => config.profile
  | .text .configFile => config.configFile
  | .text .accountId => config.accountId
  | .text .azureResourceId => config.azure.resourceId
  | .text .azureClientId => config.azure.clientId
  | .text .azureClientSecret => config.azure.clientSecret
  | .text .azureTenantId => config.azure.tenantId
  | .text .googleServiceAccount => config.google.serviceAccount
  | .text .googleCredentials => config.google.credentials
  | .number .httpTimeoutSeconds => config.httpTimeoutSeconds
  | .number .rateLimitPerSecond => config.rateLimitPerSecond
  | .number .debugTruncateBytes => config.debugTruncateBytes
  | .switch .insecureSkipVerify => config.insecureSkipVerify
  | .switch .debugHeaders => config.debugHeaders

def Overrides.get (overrides : Overrides) : (setting : Setting) → setting.Given
  | .text .host => overrides.host
  | .text .token => overrides.token
  | .text .username => overrides.username
  | .text .password => overrides.password
  | .text .profile => overrides.profile
  | .text .configFile => overrides.configFile
  | .text .accountId => overrides.accountId
  | .text .azureResourceId => overrides.azureResourceId
  | .text .azureClientId => overrides.azureClientId
  | .text .azureClientSecret => overrides.azureClientSecret
  | .text .azureTenantId => overrides.azureTenantId
  | .text .googleServiceAccount => overrides.googleServiceAccount
  | .text .googleCredentials => overrides.googleCredentials
  | .number .httpTimeoutSeconds => overrides.httpTimeoutSeconds
  | .number .rateLimitPerSecond => overrides.rateLimit
  | .number .debugTruncateBytes => overrides.debugTruncateBytes
  | .switch .insecureSkipVerify => overrides.insecureSkipVerify
  | .switch .debugHeaders => overrides.debugHeaders

/-- The settings that are read so by name. -/
def Config.ofGet (get : (setting : Setting) → setting.Value) (loginEndpoint : Option String) :
    Config where
  host := get (.text .host)
  token := get (.text .token)
  username := get (.text .username)
  password := get (.text .password)
  profile := get (.text .profile)
  configFile := get (.text .configFile)
  accountId := get (.text .accountId)
  azure :=
    { resourceId := get (.text .azureResourceId)
      clientId := get (.text .azureClientId)
      clientSecret := get (.text .azureClientSecret)
      tenantId := get (.text .azureTenantId)
      loginEndpoint := loginEndpoint }
  google :=
    { serviceAccount := get (.text .googleServiceAccount)
      credentials := get (.text .googleCredentials) }
  insecureSkipVerify := get (.switch .insecureSkipVerify)
  httpTimeoutSeconds := get (.number .httpTimeoutSeconds)
  rateLimitPerSecond := get (.number .rateLimitPerSecond)
  debugTruncateBytes := get (.number .debugTruncateBytes)
  debugHeaders := get (.switch .debugHeaders)

theorem Config.eq_of_get {one other : Config} (hget : ∀ setting, one.get setting = other.get setting)
    (hlogin : one.azure.loginEndpoint = other.azure.loginEndpoint) : one = other :=
  calc one = ofGet one.get one.azure.loginEndpoint := rfl
    _ = ofGet other.get other.azure.loginEndpoint := by rw [funext hget, hlogin]
    _ = other := rfl

namespace Overrides

variable {overrides : Overrides} {base config : Config}

/-- Overrides without the texts that are empty, which have no say. -/
def effective (overrides : Overrides) : Overrides :=
  { overrides with
    host := nonEmpty overrides.host
    token := nonEmpty overrides.token
    username := nonEmpty overrides.username
    password := nonEmpty overrides.password
    profile := nonEmpty overrides.profile
    configFile := nonEmpty overrides.configFile
    accountId := nonEmpty overrides.accountId
    azureResourceId := nonEmpty overrides.azureResourceId
    azureClientId := nonEmpty overrides.azureClientId
    azureClientSecret := nonEmpty overrides.azureClientSecret
    azureTenantId := nonEmpty overrides.azureTenantId
    googleServiceAccount := nonEmpty overrides.googleServiceAccount
    googleCredentials := nonEmpty overrides.googleCredentials }

theorem get_apply (overrides : Overrides) (config : Config) (setting : Setting) :
    (overrides.apply config).get setting =
      setting.settle (overrides.get setting) (config.get setting) := by
  cases setting with
  | text name => cases name <;> rfl
  | number name => cases name <;> rfl
  | switch name => cases name <;> rfl

theorem get_effective_orElse (first second : Overrides) (setting : Setting) :
    (first.effective.orElse second).get setting =
      setting.prefer (first.get setting) (second.get setting) := by
  cases setting with
  | text name => cases name <;> rfl
  | number name => cases name <;> rfl
  | switch name => cases name <;> rfl

theorem apply_self (overrides : Overrides) (base : Config) :
    overrides.apply (overrides.apply base) = overrides.apply base := by
  refine Config.eq_of_get (fun setting => ?_) rfl
  rw [get_apply, get_apply, Setting.settle_self]

theorem apply_apply (later first : Overrides) (base : Config) :
    later.apply (first.apply base) = (later.effective.orElse first).apply base := by
  refine Config.eq_of_get (fun setting => ?_) rfl
  rw [get_apply, get_apply, get_apply, get_effective_orElse, Setting.settle_settle]

/-- The settings that overrides make of others, kind by kind. -/
structure Yields (overrides : Overrides) (base config : Config) : Prop where
  text_given : ∀ name text, overrides.get (.text name) = some text → text ≠ "" →
    config.get (.text name) = some text
  /-- An empty text counts as none. -/
  text_kept : ∀ name, (∀ text, overrides.get (.text name) = some text → text = "") →
    config.get (.text name) = base.get (.text name)
  number_given : ∀ name value, overrides.get (.number name) = some value →
    config.get (.number name) = value
  number_kept : ∀ name, overrides.get (.number name) = none →
    config.get (.number name) = base.get (.number name)
  switch : ∀ name, config.get (.switch name) =
    (base.get (.switch name) || overrides.get (.switch name))
  login_endpoint : config.azure.loginEndpoint = base.azure.loginEndpoint

theorem yields_apply (overrides : Overrides) (base : Config) :
    overrides.Yields base (overrides.apply base) where
  text_given name text hgiven hne := by
    rw [get_apply, hgiven, Setting.settle_text_of_given _ hne]
  text_kept name hgiven := by
    rw [get_apply, Setting.settle_text_of_empty _ hgiven]
  number_given name value hgiven := by
    rw [get_apply, hgiven]
    rfl
  number_kept name hgiven := by
    rw [get_apply, hgiven]
    rfl
  switch name := get_apply ..
  login_endpoint := rfl

theorem Yields.get_eq (h : overrides.Yields base config) (setting : Setting) :
    config.get setting = setting.settle (overrides.get setting) (base.get setting) := by
  cases setting with
  | text name =>
      cases hgiven : nonEmpty (overrides.get (.text name)) with
      | none =>
          have hempty := nonEmpty_eq_none_iff.mp hgiven
          rw [h.text_kept name hempty, Setting.settle_text_of_empty _ hempty]
      | some text =>
          obtain ⟨hsome, hne⟩ := nonEmpty_eq_some_iff.mp hgiven
          rw [h.text_given name text hsome hne, hsome, Setting.settle_text_of_given _ hne]
  | number name =>
      cases hgiven : overrides.get (.number name) with
      | none => exact h.number_kept name hgiven
      | some value => exact h.number_given name value hgiven
  | switch name => exact h.switch name

theorem yields_iff : overrides.Yields base config ↔ config = overrides.apply base := by
  constructor
  · intro h
    refine Config.eq_of_get (fun setting => ?_) h.login_endpoint
    rw [h.get_eq, get_apply]
  · rintro rfl
    exact yields_apply overrides base

end Overrides

/-! ### Laws -/

def Overrides.SameBut (setting : Setting) (one other : Overrides) : Prop :=
  ∀ another, another ≠ setting → one.get another = other.get another

def Config.SameBut (setting : Setting) (one other : Config) : Prop :=
  (∀ another, another ≠ setting → one.get another = other.get another) ∧
    one.azure.loginEndpoint = other.azure.loginEndpoint

variable [Wording]

/-- The settings that a run starts from: those of the file that is named, or the defaults. -/
def CommandLine.StartsFrom (line : CommandLine) (trace : List Asked) (base : Config) : Prop :=
  match line.config with
  | none => trace = [] ∧ base = {}
  | some path => (Config.load path).Runs trace (.ok base)

theorem CommandLine.runs_clientConfig_iff {line : CommandLine} {trace : List Asked}
    {config : Config} :
    line.clientConfig.Runs trace (.ok config) ↔
      ∃ base, line.StartsFrom trace base ∧ line.overrides.Yields base config := by
  simp only [Overrides.yields_iff, clientConfig, StartsFrom]
  cases line.config with
  | none =>
      rw [Program.pure_eq_done, Program.runs_done_iff, Except.ok.injEq]
      constructor
      · rintro ⟨rfl, hconfig⟩
        exact ⟨{}, ⟨rfl, rfl⟩, hconfig⟩
      · rintro ⟨_, ⟨rfl, rfl⟩, hconfig⟩
        exact ⟨rfl, hconfig⟩
  | some path =>
      rw [Program.runs_bind_iff]
      constructor
      · rintro ⟨first, loaded, second, rfl, hload, hdone⟩
        cases loaded with
        | error error => cases (Program.runs_done_iff.mp hdone).2
        | ok base =>
            obtain ⟨rfl, hconfig⟩ := Program.runs_done_iff.mp hdone
            rw [List.append_nil]
            exact ⟨base, hload, Except.ok.inj hconfig⟩
      · rintro ⟨base, hload, rfl⟩
        exact ⟨trace, .ok base, [], (List.append_nil trace).symm, hload, .done _⟩

/-- How overrides act on settings. -/
structure Overrides.Lawful (overrides : Overrides) (base : Config) : Prop where
  yields : ∀ config, overrides.Yields base config ↔ config = overrides.apply base
  /-- What is said about one setting changes no other. -/
  own_setting : ∀ setting other, overrides.SameBut setting other →
    (overrides.apply base).SameBut setting (other.apply base)
  twice : overrides.apply (overrides.apply base) = overrides.apply base
  later : ∀ later : Overrides,
    later.apply (overrides.apply base) = (later.effective.orElse overrides).apply base
  /-- The settings of a command line are those it starts from, with its overrides. -/
  command_line : ∀ (line : CommandLine) trace config, line.overrides = overrides →
    (line.clientConfig.Runs trace (.ok config) ↔
      ∃ start, line.StartsFrom trace start ∧ overrides.Yields start config)

/-- **Overrides act setting by setting.** -/
theorem Overrides.lawful_apply (overrides : Overrides) (base : Config) :
    overrides.Lawful base where
  yields _ := yields_iff
  own_setting setting other hsame := by
    refine ⟨fun another hne => ?_, rfl⟩
    rw [get_apply, get_apply, hsame another hne]
  twice := apply_self overrides base
  later later := apply_apply later overrides base
  command_line line trace config hline := hline ▸ CommandLine.runs_clientConfig_iff

/-- An empty text clears nothing, and zero counts as a number. -/
example :
    ({ token := some "", httpTimeoutSeconds := some 0 } : Overrides).apply { token := some "t" } =
      { token := some "t", httpTimeoutSeconds := 0 } := by decide

end ControlPlane
