import ControlPlane.Config
import ControlPlane.Proofs.Text.Quoted

/-!
# What debug texts tell of secrets

The debug text of settings tells of a token, a password or a client secret only whether it is there.
The credentials of a service account it shows as they are, and those may be a private key: two
settings that differ in nothing but what their secrets say have the same debug text exactly if their
service account credentials are the same.
-/

namespace ControlPlane

open Text

/-! ### Texts around a part -/

/-- A text that shows one part of itself as it is, always between the same texts. -/
def Text.Embeds (render : String → String) : Prop :=
  ∃ before after, ∀ part, render part = before ++ part ++ after

theorem Text.Embeds.injective {render : String → String} (h : Embeds render) {first second : String}
    (heq : render first = render second) : first = second := by
  obtain ⟨before, after, hrender⟩ := h
  rw [hrender, hrender, String.append_left_inj, String.append_right_inj] at heq
  exact heq

theorem Text.Embeds.comp {outer inner : String → String} (houter : Embeds outer)
    (hinner : Embeds inner) : Embeds fun part => outer (inner part) := by
  obtain ⟨before, after, houter⟩ := houter
  obtain ⟨start, finish, hinner⟩ := hinner
  refine ⟨before ++ start, finish ++ after, fun part => ?_⟩
  simp only [houter, hinner, String.append_assoc]

theorem Text.embeds_append (before after : String) : Embeds fun part => before ++ part ++ after :=
  ⟨before, after, fun _ => rfl⟩

theorem Text.embeds_intercalate (separator : String) (front back : List String) :
    Embeds fun part => separator.intercalate (front ++ part :: back) := by
  induction front with
  | nil =>
      cases back with
      | nil => exact ⟨"", "", by simp⟩
      | cons next back =>
          refine ⟨"", separator ++ separator.intercalate (next :: back), fun part => ?_⟩
          simp [String.append_assoc]
  | cons item front ih =>
      obtain ⟨before, after, hrest⟩ := ih
      refine ⟨item ++ separator ++ before, after, fun part => ?_⟩
      calc separator.intercalate (item :: (front ++ part :: back))
          = item ++ separator ++ separator.intercalate (front ++ part :: back) :=
            String.intercalate_cons_of_ne_nil (by simp)
        _ = item ++ separator ++ (before ++ part ++ after) := by rw [← hrest]
        _ = item ++ separator ++ before ++ part ++ after := by simp only [String.append_assoc]

/-- A record shows each of its fields between the others. -/
theorem Text.embeds_debugRecord (name key : String) (front back : List (String × String))
    (hidden : Bool) :
    Embeds fun part => debugRecord name (front ++ (key, part) :: back) hidden := by
  have hfields (part : String) :
      debugRecord name (front ++ (key, part) :: back) hidden =
        name ++ " \x7b " ++ ", ".intercalate (front.map (fun field => field.1 ++ ": " ++ field.2) ++
          (key ++ ": " ++ part) :: (back.map (fun field => field.1 ++ ": " ++ field.2) ++
            if hidden then [".."] else [])) ++ " \x7d" := by
    cases hidden <;> simp [debugRecord]
  simp only [hfields]
  exact (embeds_append _ _).comp ((embeds_intercalate _ _ _).comp ⟨key ++ ": ", "", by simp⟩)

theorem debugSetting_injective {first second : Option String}
    (h : debugSetting first = debugSetting second) : first = second := by
  have hsome (text : String) : debugSetting (some text) ≠ debugSetting none := by
    intro heq
    have hchars := congrArg String.toList heq
    simp [debugSetting, debugOption] at hchars
  cases first with
  | none =>
      cases second with
      | none => rfl
      | some text => exact absurd h.symm (hsome text)
  | some first =>
      cases second with
      | none => exact absurd h (hsome first)
      | some second =>
          have hquoted : quoted first = quoted second :=
            (embeds_append "Some(" ")").injective h
          rw [quoted_injective hquoted]

/-! ### Settings but for their secrets -/

/-- A setting of which only the presence is kept. -/
def blanked (setting : Option String) : Option String :=
  setting.map fun _ => ""

namespace Config

/-- The settings without what their secrets say. -/
def withoutSecrets (config : Config) : Config :=
  { config with
    token := blanked config.token
    password := blanked config.password
    azure := { config.azure with clientSecret := blanked config.azure.clientSecret }
    google := { config.google with credentials := blanked config.google.credentials } }

def withCredentials (config : Config) (credentials : Option String) : Config :=
  { config with google := { config.google with credentials := credentials } }

theorem debugSecret_blanked (setting : Option String) :
    debugSecret (blanked setting) = debugSecret setting := by
  cases setting <;> rfl

/-- The secrets that are left out do not show. -/
theorem debugText_withoutSecrets (config : Config) :
    (config.withoutSecrets.withCredentials config.google.credentials).debugText =
      config.debugText := by
  simp only [debugText, AzureConfig.debugText, GoogleConfig.debugText, withCredentials,
    withoutSecrets, debugSecret_blanked]

theorem embeds_credentials (config : Config) :
    ∃ render, Embeds render ∧ ∀ credentials,
      (config.withCredentials credentials).debugText = render (debugSetting credentials) := by
  have hgoogle : Embeds fun part => debugRecord "GoogleConfig"
      [("service_account", debugSetting config.google.serviceAccount), ("credentials", part)]
      false :=
    embeds_debugRecord _ _ [_] [] _
  have hconfig := embeds_debugRecord "ClientConfig" "google"
    [("host", debugSetting config.host), ("token", debugSecret config.token),
      ("username", debugSetting config.username), ("password", debugSecret config.password),
      ("profile", debugSetting config.profile), ("config_file", debugSetting config.configFile),
      ("account_id", debugSetting config.accountId), ("azure", config.azure.debugText)]
    [("insecure_skip_verify", debugBool config.insecureSkipVerify),
      ("http_timeout_seconds", toString config.httpTimeoutSeconds),
      ("rate_limit_per_second", toString config.rateLimitPerSecond)] true
  exact ⟨_, hconfig.comp hgoogle, fun credentials => rfl⟩

/-- **What debug texts tell of secrets.** The credentials of a service account, and nothing of the
other secrets but whether they are there. -/
theorem debugText_eq_iff {first second : Config}
    (h : first.withoutSecrets = second.withoutSecrets) :
    first.debugText = second.debugText ↔
      first.google.credentials = second.google.credentials := by
  obtain ⟨render, hrender, htext⟩ := embeds_credentials second.withoutSecrets
  rw [← debugText_withoutSecrets first, ← debugText_withoutSecrets second, h, htext, htext]
  constructor
  · intro heq
    exact debugSetting_injective (hrender.injective heq)
  · intro heq
    rw [heq]

/-- A service account whose key is given as text, and a token. -/
def keyAndToken (key token : String) : Config :=
  { token := some token, google := { serviceAccount := some "a@b", credentials := some key } }

theorem debugText_eq_iff_keyAndToken :
    (keyAndToken "k" "s").withoutSecrets = (keyAndToken "k" "t").withoutSecrets ∧
      ((keyAndToken "k" "s").debugText = (keyAndToken "k" "t").debugText ↔
        (keyAndToken "k" "s").google.credentials = (keyAndToken "k" "t").google.credentials) :=
  ⟨rfl, debugText_eq_iff rfl⟩

/-- A key shows in the debug text. -/
theorem exists_debugText_ne :
    ¬ ∀ first second : Config, first.withoutSecrets = second.withoutSecrets →
      first.debugText = second.debugText := by
  intro h
  have hsame := h (keyAndToken "k" "t") (keyAndToken "l" "t") rfl
  revert hsame
  decide +kernel

end Config

end ControlPlane
