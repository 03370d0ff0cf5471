import ControlPlane.Proofs.Authenticator.Leaves
import ControlPlane.Proofs.Authenticator.ProfileFile
import ControlPlane.Surroundings.Wording

/-!
# Credentials in a profile and in the settings

A profile and the settings choose a credential in the same way, user name and password before the
token, but they do not count alike what is there: the settings take an empty text for none, and a
profile takes an empty user name or password for one that is given. So the same texts mean the same
credential in both places, unless a user name and a password are given of which one is empty.
-/

namespace ControlPlane

open Profile

/-- The settings name a host and a credential by the same texts as a profile. -/
structure Config.Offers (config : Config) (pairs : List (String × String)) : Prop where
  host : config.host = valueOf pairs "host"
  username : config.username = valueOf pairs "username"
  password : config.password = valueOf pairs "password"
  token : config.token = valueOf pairs "token"

/-- A user name and a password are given, and one of them is empty. -/
def Config.HalfGiven (config : Config) : Prop :=
  ∃ username password, config.username = some username ∧ config.password = some password ∧
    (username = "" ∨ password = "")

namespace Authenticator

variable {answers others : Answers} {settings config : Config} {path name text : String}
  {pairs : List (String × String)}

/-- What comes of a profile means the same as what comes of the settings: the one has a signer if
the other has it, which sends the same header; where the settings have no credential the profile
lacks its token; and a credential that cannot be sent is refused alike. -/
structure SameCredential (path name : String) (ofProfile ofSettings : Verdict) : Prop where
  signs : ∀ signer, ofProfile = .ok (some signer) ↔ ofSettings = .ok (some signer)
  declines : ofSettings = .ok none →
    ofProfile = .error (.error (.corruptProfile path name "token"))
  refuses : ∀ failure, ofSettings = .error failure → ofProfile = .error failure

/-! ### What comes of a profile -/

/-- What comes of a profile that names a host. -/
def credentialVerdict (path name : String) (credential : AuthKind × String) : Verdict :=
  if credential.2.isEmpty then .error (.error (.corruptProfile path name "token"))
  else ((Signer.ofCredential credential.1 credential.2).mapError .error).map some

theorem verdict_useProfile (answers : Answers) (config : Config) (path name : String)
    (hhost : (nonEmpty (valueOf pairs "host")).isSome) :
    ((useProfile config path name pairs).answerAll answers).2 =
      credentialVerdict path name (profileCredential pairs) := by
  obtain ⟨host, hhost⟩ := Option.isSome_iff_exists.mp hhost
  have hpairs : pairs.isEmpty = false := by
    cases pairs with
    | nil => cases hhost
    | cons pair pairs => rfl
  unfold useProfile credentialVerdict
  simp only [hpairs, Bool.false_eq_true, if_false, hhost]
  obtain ⟨kind, credential⟩ := profileCredential pairs
  dsimp only
  split
  · rfl
  · rw [Program.answerAll_bind]
    cases Signer.ofCredential kind credential <;> rfl

theorem verdict_profile [Wording] {file : File} (hpath : profilePath answers settings = .ok path)
    (hfile : answers (.readFile path) = .ok (Bytes.ofString text))
    (hparse : File.parse? text = some file)
    (hhost : (nonEmpty (valueOf (file.profile (profileName settings)) "host")).isSome) :
    (profile.outcome answers settings).2 = credentialVerdict path (profileName settings)
      (profileCredential (file.profile (profileName settings))) := by
  rw [outcome_useFile hpath hfile hparse]
  unfold useFile profileName at *
  cases hname : nonEmpty settings.profile with
  | some name =>
      rw [hname] at hhost
      exact verdict_useProfile answers settings path name hhost
  | none =>
      rw [hname] at hhost
      rw [Program.answerAll_bind]
      exact verdict_useProfile answers _ path defaultProfile hhost

/-! ### The same texts in the settings -/

theorem credential_of_offers (h : config.Offers pairs) (hgiven : ¬ config.HalfGiven) :
    (directCredential? config).map (fun credential => (credential.kind, credential.text)) =
      if (profileCredential pairs).2.isEmpty then none else some (profileCredential pairs) := by
  have htoken : ((nonEmpty config.token).map fun token => Credential.mk .bearer token "token").map
      (fun credential => (credential.kind, credential.text)) =
        if ((valueOf pairs "token").getD "").isEmpty then none
        else some (.bearer, (valueOf pairs "token").getD "") := by
    rw [h.token]
    cases valueOf pairs "token" with
    | none => rfl
    | some token => by_cases hempty : token = "" <;> simp [nonEmpty, Option.filter, hempty]
  unfold directCredential? profileCredential
  rw [← h.username, ← h.password]
  cases husername : config.username with
  | none => exact htoken
  | some username =>
      cases hpassword : config.password with
      | none =>
          cases hboth : nonEmpty (some username) <;> exact htoken
      | some password =>
          have hfull : username ≠ "" ∧ password ≠ "" := by
            rw [← not_or]
            exact fun hempty => hgiven ⟨username, password, husername, hpassword, hempty⟩
          rw [nonEmpty_eq_some_iff.mpr ⟨rfl, hfull.1⟩, nonEmpty_eq_some_iff.mpr ⟨rfl, hfull.2⟩]
          simp [Base64.isEmpty_basicCredential]

theorem direct_of_halfGiven (h : config.HalfGiven) {credential : Credential}
    (hcredential : directCredential? config = some credential) : credential.kind = .bearer := by
  obtain ⟨username, password, husername, hpassword, hempty⟩ := h
  unfold directCredential? at hcredential
  rw [husername, hpassword] at hcredential
  split at hcredential
  · next hfull hother =>
      obtain ⟨rfl, hfull⟩ := (nonEmpty_eq_some_iff.mp hfull).imp_left Option.some.inj
      obtain ⟨rfl, hother⟩ := (nonEmpty_eq_some_iff.mp hother).imp_left Option.some.inj
      exact absurd hempty (not_or.mpr ⟨hfull, hother⟩)
  · obtain ⟨token, -, rfl⟩ := Option.map_eq_some_iff.mp hcredential
    rfl

theorem verdict_direct (hhost : (nonEmpty config.host).isSome) :
    (direct.outcome answers config).2 = match directCredential? config with
      | none => .ok none
      | some credential =>
        ((Signer.ofCredential credential.kind credential.text).mapError .error).map some := by
  obtain ⟨host, hhost⟩ := Option.isSome_iff_exists.mp hhost
  cases hcredential : directCredential? config with
  | none => rw [outcome_direct_of_none hcredential]
  | some credential => rw [outcome_direct_of_host hcredential hhost]

/-! ### Both -/

/-- An empty user name or password does not keep a profile from using both. -/
theorem signs_of_halfGiven (hoffers : config.Offers pairs) (h : config.HalfGiven)
    (path name : String) : ∃ signer, signer.kind = .basic ∧
      credentialVerdict path name (profileCredential pairs) = .ok (some signer) := by
  obtain ⟨username, password, husername, hpassword, -⟩ := h
  rw [hoffers.username] at husername
  rw [hoffers.password] at hpassword
  have hcredential : profileCredential pairs =
      (.basic, Base64.basicCredential username password) := by
    rw [profileCredential, husername, hpassword]
  rw [hcredential, credentialVerdict, Base64.isEmpty_basicCredential, if_neg Bool.false_ne_true,
    Signer.ofCredential_basic]
  exact ⟨_, rfl, rfl⟩

theorem sameCredential_of_offers (hoffers : config.Offers pairs) (hgiven : ¬ config.HalfGiven)
    (hhost : (nonEmpty config.host).isSome) :
    SameCredential path name (credentialVerdict path name (profileCredential pairs))
      (direct.outcome answers config).2 := by
  have hcredential := credential_of_offers hoffers hgiven
  rw [verdict_direct hhost]
  cases hdirect : directCredential? config with
  | none =>
      rw [hdirect, Option.map_none, eq_comm, ite_eq_left_iff] at hcredential
      have hempty : (profileCredential pairs).2.isEmpty = true := by
        by_contra hfull
        cases hcredential hfull
      rw [credentialVerdict, if_pos hempty]
      exact ⟨fun signer => ⟨nofun, nofun⟩, fun _ => rfl, nofun⟩
  | some credential =>
      rw [hdirect, Option.map_some, eq_comm, ite_eq_iff] at hcredential
      obtain ⟨-, hnone⟩ | ⟨hfull, hsame⟩ := hcredential
      · cases hnone
      · rw [credentialVerdict, if_neg hfull, Option.some.inj hsame]
        refine ⟨fun signer => Iff.rfl, fun hnone => ?_, fun _ => id⟩
        dsimp only at hnone
        cases hsigner : Signer.ofCredential credential.kind credential.text <;>
          rw [hsigner] at hnone <;> cases hnone

theorem not_sameCredential_of_halfGiven (hoffers : config.Offers pairs) (h : config.HalfGiven)
    (hhost : (nonEmpty config.host).isSome) :
    ¬ SameCredential path name (credentialVerdict path name (profileCredential pairs))
      (direct.outcome answers config).2 := by
  intro hsame
  obtain ⟨signer, hkind, hsigner⟩ := signs_of_halfGiven hoffers h path name
  have hdirect := (hsame.signs signer).mp hsigner
  rw [verdict_direct hhost] at hdirect
  cases hcredential : directCredential? config with
  | none =>
      rw [hcredential] at hdirect
      cases hdirect
  | some credential =>
      have hbearer := direct_of_halfGiven h hcredential
      simp only [hcredential] at hdirect
      cases hfound : Signer.ofCredential credential.kind credential.text with
      | error error =>
          rw [hfound] at hdirect
          cases hdirect
      | ok found =>
          rw [hfound] at hdirect
          obtain rfl : found = signer := Option.some.inj (Except.ok.inj hdirect)
          rw [Signer.kind_of_ofCredential hfound, hbearer] at hkind
          cases hkind

/-- **A profile and the settings mean the same.** Whatever texts they give, unless these are a user
name and a password of which one is empty. -/
theorem sameCredential_iff [Wording] {file : File} (hpath : profilePath answers settings = .ok path)
    (hfile : answers (.readFile path) = .ok (Bytes.ofString text))
    (hparse : File.parse? text = some file)
    (hoffers : config.Offers (file.profile (profileName settings)))
    (hhost : (nonEmpty config.host).isSome) :
    SameCredential path (profileName settings) (profile.outcome answers settings).2
        (direct.outcome others config).2 ↔ ¬ config.HalfGiven := by
  rw [verdict_profile hpath hfile hparse (hoffers.host ▸ hhost)]
  constructor
  · exact fun hsame hgiven => not_sameCredential_of_halfGiven hoffers hgiven hhost hsame
  · exact fun hgiven => sameCredential_of_offers hoffers hgiven hhost

/-- Answers of surroundings with one profile file. -/
def profileAnswers (text : String) : Answers
  | .readFile _ => .ok (Bytes.ofString text)
  | query => Answers.bare query

/-- A user name without a password. -/
def tokenProfile : String :=
  "[DEFAULT]\nhost = a.example\nusername = me\ntoken = t\n"

/-- The same in settings. -/
def tokenSettings : Config :=
  { host := some "a.example", username := some "me", token := some "t" }

/-- A user name and a password that are left empty after their keys. -/
def blankProfile : String :=
  "[DEFAULT]\nhost = a.example\nusername =\npassword =\n"

def blankSettings : Config :=
  { host := some "a.example", username := some "", password := some "" }

/-- Settings that say only where the profile file is. -/
def atProfiles : Config :=
  { configFile := some "/profiles" }

/-- A user name without a password leaves the token to be used, in both places. -/
theorem sameCredential_iff_token :
    SameCredential "/profiles" "DEFAULT"
      (profile.outcome (profileAnswers tokenProfile) atProfiles).2
      (direct.outcome .bare tokenSettings).2 := by
  have hparse : File.parse? tokenProfile = some ⟨[⟨none, []⟩, ⟨some "DEFAULT",
      [("host", "a.example"), ("username", "me"), ("token", "t")]⟩]⟩ := by
    decide +kernel
  have hoffers : tokenSettings.Offers
      [("host", "a.example"), ("username", "me"), ("token", "t")] := ⟨rfl, rfl, rfl, rfl⟩
  have hpath : profilePath (profileAnswers tokenProfile) atProfiles = .ok "/profiles" := rfl
  have hfile : profileAnswers tokenProfile (.readFile "/profiles") =
      .ok (Bytes.ofString tokenProfile) := rfl
  refine (sameCredential_iff hpath hfile hparse hoffers rfl).mpr ?_
  rintro ⟨username, password, -, ⟨⟩, -⟩

/-- A profile may have a signer where the same texts in the settings are no credential. -/
theorem exists_not_sameCredential :
    ¬ ∀ (answers others : Answers) (settings config : Config) (path text : String) (file : File),
      profilePath answers settings = .ok path →
      answers (.readFile path) = .ok (Bytes.ofString text) → File.parse? text = some file →
      config.Offers (file.profile (profileName settings)) → (nonEmpty config.host).isSome →
      SameCredential path (profileName settings) (profile.outcome answers settings).2
        (direct.outcome others config).2 := by
  intro h
  have hparse : File.parse? blankProfile = some ⟨[⟨none, []⟩, ⟨some "DEFAULT",
      [("host", "a.example"), ("username", ""), ("password", "")]⟩]⟩ := by
    decide +kernel
  have hoffers : blankSettings.Offers
      [("host", "a.example"), ("username", ""), ("password", "")] := ⟨rfl, rfl, rfl, rfl⟩
  have hpath : profilePath (profileAnswers blankProfile) atProfiles = .ok "/profiles" := rfl
  have hfile : profileAnswers blankProfile (.readFile "/profiles") =
      .ok (Bytes.ofString blankProfile) := rfl
  have hsame := h (profileAnswers blankProfile) .bare atProfiles blankSettings "/profiles"
    blankProfile _ hpath hfile hparse hoffers rfl
  rw [verdict_profile hpath hfile hparse rfl] at hsame
  exact not_sameCredential_of_halfGiven hoffers ⟨"", "", rfl, rfl, .inl rfl⟩ rfl hsame

end Authenticator

end ControlPlane
