import ControlPlane.Proofs.Config.Edit

/-!
# Settings are read back from JSON

Written settings are read back as they were, in both layouts. When members are removed from the
written object or from the two objects in it, moved, cleared or joined by others, the settings that
are left keep their values and all others have their defaults.
-/

namespace ControlPlane

open Json

/-! ### What an edit leaves of settings -/

def AzureConfig.keeping (fate : String → Fate) (azure : AzureConfig) : AzureConfig where
  resourceId := (fate "resource_id").pick azure.resourceId none
  clientId := (fate "client_id").pick azure.clientId none
  clientSecret := (fate "client_secret").pick azure.clientSecret none
  tenantId := (fate "tenant_id").pick azure.tenantId none
  loginEndpoint := (fate "login_endpoint").pick azure.loginEndpoint none

def GoogleConfig.keeping (fate : String → Fate) (google : GoogleConfig) : GoogleConfig where
  serviceAccount := (fate "service_account").pick google.serviceAccount none
  credentials := (fate "credentials").pick google.credentials none

namespace Config

/-- Settings of which those that are not kept have their defaults. -/
def keeping (fates : List String → Fate) (config : Config) : Config where
  host := (fates ["host"]).pick config.host none
  token := (fates ["token"]).pick config.token none
  username := (fates ["username"]).pick config.username none
  password := (fates ["password"]).pick config.password none
  profile := (fates ["profile"]).pick config.profile none
  configFile := (fates ["config_file"]).pick config.configFile none
  accountId := (fates ["account_id"]).pick config.accountId none
  azure := (fates ["azure"]).pick (config.azure.keeping fun name => fates ["azure", name]) {}
  google := (fates ["google"]).pick (config.google.keeping fun name => fates ["google", name]) {}
  insecureSkipVerify := (fates ["insecure_skip_verify"]).pick config.insecureSkipVerify false
  httpTimeoutSeconds :=
    (fates ["http_timeout_seconds"]).pick config.httpTimeoutSeconds defaultTimeoutSeconds
  rateLimitPerSecond :=
    (fates ["rate_limit_per_second"]).pick config.rateLimitPerSecond defaultRateLimit
  debugTruncateBytes :=
    (fates ["debug_truncate_bytes"]).pick config.debugTruncateBytes defaultTruncation
  debugHeaders := (fates ["debug_headers"]).pick config.debugHeaders false

example (config : Config) : config.keeping (fun _ => .removed) = {} := rfl

/-- The numbers of settings are those of a machine word, or of half of one. -/
structure Fits (config : Config) : Prop where
  httpTimeoutSeconds : config.httpTimeoutSeconds < 1 <<< 64
  rateLimitPerSecond : config.rateLimitPerSecond < 1 <<< 32
  debugTruncateBytes : config.debugTruncateBytes < 1 <<< 64

end Config

/-! ### The records -/

theorem AzureConfig.schema_apart : AzureConfig.schema.Apart where
  names := by decide
  commute := by simp [AzureConfig.schema, settingField, Schema.commute_of]

theorem GoogleConfig.schema_apart : GoogleConfig.schema.Apart where
  names := by decide
  commute := by simp [GoogleConfig.schema, settingField, Schema.commute_of]

theorem Config.schema_apart : Config.schema.Apart where
  names := by decide
  commute := by simp [Config.schema, settingField, Schema.commute_of]

/-! ### Settings for Azure and Google -/

namespace AzureConfig

variable (azure : AzureConfig) (fate : String → Fate)

def entries : List (Entry AzureConfig) :=
  let left := azure.keeping fate
  [⟨"resource_id", settingValue azure.resourceId,
      fun base => { base with resourceId := left.resourceId }⟩,
    ⟨"client_id", settingValue azure.clientId,
      fun base => { base with clientId := left.clientId }⟩,
    ⟨"client_secret", settingValue azure.clientSecret,
      fun base => { base with clientSecret := left.clientSecret }⟩,
    ⟨"tenant_id", settingValue azure.tenantId,
      fun base => { base with tenantId := left.tenantId }⟩,
    ⟨"login_endpoint", settingValue azure.loginEndpoint,
      fun base => { base with loginEndpoint := left.loginEndpoint }⟩]

theorem readBy_entries :
    List.Forall₂ (Entry.ReadBy fate fun _ => StandsFor) AzureConfig.schema.fields
      (azure.entries fate) := by
  have hread {name : String} {setting : Option String}
      {set : Option String → AzureConfig → AzureConfig} :
      Entry.ReadBy fate (fun _ => StandsFor) (settingField name set)
        ⟨name, settingValue setting, set ((fate name).pick setting none)⟩ :=
    Entry.readBy_setting fun _ h => h
  exact .cons hread <| .cons hread <| .cons hread <| .cons hread <| .cons hread .nil

theorem apply_entries : Entry.apply fate (azure.entries fate) {} = azure.keeping fate := by
  refine (Entry.apply_eq_foldl ?_ ?_).trans rfl
  · simp [entries]
  · simp +contextual [entries, keeping, Fate.pick]

theorem decoder_edited {tree : Tree} (h : Edited fate (fun _ => StandsFor) azure.toValue tree) :
    AzureConfig.decoder tree = some (azure.keeping fate) := by
  rw [decoder, schema_apart.decoder_edited (azure.readBy_entries fate) h, apply_entries]

theorem edited_toValue :
    Edited (fun _ => .kept) (fun _ => StandsFor) azure.toValue azure.toValue.tree := by
  refine edited_tree ?_
  simp [standsFor_setting]

end AzureConfig

namespace GoogleConfig

variable (google : GoogleConfig) (fate : String → Fate)

def entries : List (Entry GoogleConfig) :=
  let left := google.keeping fate
  [⟨"service_account", settingValue google.serviceAccount,
      fun base => { base with serviceAccount := left.serviceAccount }⟩,
    ⟨"credentials", settingValue google.credentials,
      fun base => { base with credentials := left.credentials }⟩]

theorem readBy_entries :
    List.Forall₂ (Entry.ReadBy fate fun _ => StandsFor) GoogleConfig.schema.fields
      (google.entries fate) :=
  .cons (Entry.readBy_setting fun _ h => h) <| .cons (Entry.readBy_setting fun _ h => h) .nil

theorem apply_entries : Entry.apply fate (google.entries fate) {} = google.keeping fate := by
  refine (Entry.apply_eq_foldl ?_ ?_).trans rfl
  · simp [entries]
  · simp +contextual [entries, keeping, Fate.pick]

theorem decoder_edited {tree : Tree} (h : Edited fate (fun _ => StandsFor) google.toValue tree) :
    GoogleConfig.decoder tree = some (google.keeping fate) := by
  rw [decoder, schema_apart.decoder_edited (google.readBy_entries fate) h, apply_entries]

theorem edited_toValue :
    Edited (fun _ => .kept) (fun _ => StandsFor) google.toValue google.toValue.tree := by
  refine edited_tree ?_
  simp [standsFor_setting]

end GoogleConfig

/-! ### All settings -/

namespace Config

variable (config : Config) (fates : List String → Fate)

def entries : List (Entry Config) :=
  let left := config.keeping fates
  [⟨"host", settingValue config.host, fun base => { base with host := left.host }⟩,
    ⟨"token", settingValue config.token, fun base => { base with token := left.token }⟩,
    ⟨"username", settingValue config.username, fun base => { base with username := left.username }⟩,
    ⟨"password", settingValue config.password, fun base => { base with password := left.password }⟩,
    ⟨"profile", settingValue config.profile, fun base => { base with profile := left.profile }⟩,
    ⟨"config_file", settingValue config.configFile,
      fun base => { base with configFile := left.configFile }⟩,
    ⟨"account_id", settingValue config.accountId,
      fun base => { base with accountId := left.accountId }⟩,
    ⟨"azure", config.azure.toValue, fun base => { base with azure := left.azure }⟩,
    ⟨"google", config.google.toValue, fun base => { base with google := left.google }⟩,
    ⟨"insecure_skip_verify", .bool config.insecureSkipVerify,
      fun base => { base with insecureSkipVerify := left.insecureSkipVerify }⟩,
    ⟨"http_timeout_seconds", .number (.natural config.httpTimeoutSeconds),
      fun base => { base with httpTimeoutSeconds := left.httpTimeoutSeconds }⟩,
    ⟨"rate_limit_per_second", .number (.natural config.rateLimitPerSecond),
      fun base => { base with rateLimitPerSecond := left.rateLimitPerSecond }⟩,
    ⟨"debug_truncate_bytes", .number (.natural config.debugTruncateBytes),
      fun base => { base with debugTruncateBytes := left.debugTruncateBytes }⟩,
    ⟨"debug_headers", .bool config.debugHeaders,
      fun base => { base with debugHeaders := left.debugHeaders }⟩]

theorem standsFor_of_within {name : String} {setting : Option String} {tree : Tree}
    (h : StandsWithin fates name (settingValue setting) tree) :
    StandsFor (settingValue setting) tree := by
  cases setting <;> exact h

theorem readBy_entries (hfits : config.Fits) :
    List.Forall₂ (Entry.ReadBy (fun name => fates [name]) (StandsWithin fates)) schema.fields
      (config.entries fates) := by
  have hsetting {name : String} {setting : Option String} {set : Option String → Config → Config} :
      Entry.ReadBy (fun name => fates [name]) (StandsWithin fates) (settingField name set)
        ⟨name, settingValue setting, set ((fates [name]).pick setting none)⟩ :=
    Entry.readBy_setting fun _ h => standsFor_of_within fates h
  have hbool {name : String} {value : Bool} {set : Bool → Config → Config} :
      Entry.ReadBy (fun name => fates [name]) (StandsWithin fates) (Field.of name Decoder.bool set)
        ⟨name, .bool value, set ((fates [name]).pick value false)⟩ :=
    Entry.readBy_of (fun _ h => bool_of_standsFor h) fun h => absurd h (not_setting nofun nofun)
  have hnatural {name : String} {bits value default : Nat} {set : Nat → Config → Config}
      (hvalue : value < 1 <<< bits) :
      Entry.ReadBy (fun name => fates [name]) (StandsWithin fates)
        (Field.of name (Decoder.natural bits) set)
        ⟨name, .number (.natural value), set ((fates [name]).pick value default)⟩ :=
    Entry.readBy_of (fun _ h => natural_of_standsFor hvalue h) fun h =>
      absurd h (not_setting nofun nofun)
  refine .cons hsetting <| .cons hsetting <| .cons hsetting <| .cons hsetting <|
    .cons hsetting <| .cons hsetting <| .cons hsetting <| .cons ?_ <| .cons ?_ <| .cons hbool <|
    .cons (hnatural hfits.httpTimeoutSeconds) <| .cons (hnatural hfits.rateLimitPerSecond) <|
    .cons (hnatural hfits.debugTruncateBytes) <| .cons hbool .nil
  · exact Entry.readBy_of (fun _ h => config.azure.decoder_edited _ h) fun h =>
      absurd h (not_setting nofun nofun)
  · exact Entry.readBy_of (fun _ h => config.google.decoder_edited _ h) fun h =>
      absurd h (not_setting nofun nofun)

theorem apply_entries :
    Entry.apply (fun name => fates [name]) (config.entries fates) {} = config.keeping fates := by
  refine (Entry.apply_eq_foldl ?_ ?_).trans rfl
  · simp [entries]
  · simp +contextual [entries, keeping, Fate.pick]

theorem decoder_edited (hfits : config.Fits) {tree : Tree}
    (h : EditedWithin fates config.toValue tree) :
    decoder tree = some (config.keeping fates) := by
  rw [decoder, schema_apart.decoder_edited (config.readBy_entries fates hfits) h, apply_entries]

theorem edited_toValue (hfits : config.Fits) :
    EditedWithin (fun _ => .kept) config.toValue config.toValue.tree := by
  have hsetting (name : String) (setting : Option String) :
      StandsWithin (fun _ => .kept) name (settingValue setting) (settingValue setting).tree := by
    cases setting <;> exact standsFor_setting _
  have hrate := Nat.lt_trans hfits.rateLimitPerSecond (show 1 <<< 32 < 1 <<< 64 by decide)
  refine edited_tree ?_
  simp only [List.forall_mem_cons]
  exact ⟨hsetting _ _, hsetting _ _, hsetting _ _, hsetting _ _, hsetting _ _, hsetting _ _,
    hsetting _ _, config.azure.edited_toValue, config.google.edited_toValue, standsFor_bool _,
    standsFor_natural hfits.httpTimeoutSeconds, standsFor_natural hrate,
    standsFor_natural hfits.debugTruncateBytes, standsFor_bool _, nofun⟩

/-- **Settings are read back from JSON.** They are read as they were written, in both layouts; and
from any text that spells an edit of the written object, those that the edit keeps are read as they
were, and the others are left at their defaults. -/
theorem parse?_edited (hfits : config.Fits) :
    (parse? config.toValue.compact = some config ∧ parse? config.toValue.pretty = some config) ∧
      ∀ (fates : List String → Fate) (tree : Tree), EditedWithin fates config.toValue tree →
        ∀ text : String, Tree.parse? (Bytes.ofString text) = some tree →
          parse? text = some (config.keeping fates) := by
  have hread (fates : List String → Fate) (tree : Tree) (h : EditedWithin fates config.toValue tree)
      (text : String) (htext : Tree.parse? (Bytes.ofString text) = some tree) :
      parse? text = some (config.keeping fates) := by
    rw [parse?, Decoder.decode?, htext, Option.bind_some, config.decoder_edited fates hfits h]
  have hwritten := hread _ _ (config.edited_toValue hfits)
  exact ⟨⟨hwritten _ (Value.parse?_compact _), hwritten _ (Value.parse?_pretty _)⟩, hread⟩

theorem parse?_edited_moved :
    let config : Config := { host := "h", token := "a\n\"b", password := "p"
                             azure := { clientId := "c", tenantId := "d" }
                             rateLimitPerSecond := 30 }
    let fates : List String → Fate := fun path =>
      if path ∈ [["token"], ["azure"], ["azure", "client_id"], ["rate_limit_per_second"]] then .kept
      else if path = ["password"] then .cleared
      else .removed
    let value : Value := .object [
      ("rate_limit_per_second", .number (.natural 30)),
      ("x", .array [.number (.natural 1), .object []]),
      ("token", .string "a\n\"b"),
      ("password", .null),
      ("azure", .object [("y", .null), ("client_id", .string "c")])]
    config.Fits ∧ EditedWithin fates config.toValue value.tree ∧
      parse? value.compact =
        some { token := "a\n\"b", azure := { clientId := "c" }, rateLimitPerSecond := 30 } := by
  intro config fates value
  have hfits : config.Fits := ⟨by decide, by decide, by decide⟩
  have hazure : Edited (fun inner => fates ["azure", inner]) (fun _ => StandsFor)
      config.azure.toValue (Value.object [("y", .null), ("client_id", .string "c")]).tree :=
    edited_of_perm (.refl ([("y", Value.null)] ++ [("client_id", Value.string "c")]))
      (.cons ⟨rfl, standsFor_setting (some "c")⟩ .nil) (by decide)
  have hedited : EditedWithin fates config.toValue value.tree := by
    let rate : String × Value := ("rate_limit_per_second", .number (.natural 30))
    let token : String × Value := ("token", .string "a\n\"b")
    let password : String × Value := ("password", .null)
    let azure : String × Value := ("azure", .object [("y", .null), ("client_id", .string "c")])
    let other : String × Value := ("x", .array [.number (.natural 1), .object []])
    have hmoved : [rate, other, token, password, azure].Perm
        ([other] ++ [token, password, azure, rate]) :=
      (List.perm_append_singleton rate [other, token, password, azure]).symm
    exact edited_of_perm hmoved
      (.cons ⟨rfl, standsFor_setting (some "a\n\"b")⟩ <| .cons ⟨rfl, rfl, some "p", rfl⟩ <|
        .cons ⟨rfl, hazure⟩ <| .cons ⟨rfl, standsFor_natural (by decide)⟩ .nil) (by decide)
  exact ⟨hfits, hedited, (config.parse?_edited hfits).2 _ _ hedited _ value.parse?_compact⟩

end Config

end ControlPlane
