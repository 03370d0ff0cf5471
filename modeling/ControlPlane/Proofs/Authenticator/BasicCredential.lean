import ControlPlane.Proofs.Authenticator.Verdicts
import ControlPlane.Proofs.Base64.RoundTrip
import ControlPlane.Proofs.Bytes

/-!
# Basic credentials

**Basic credentials** (`basicCredential_lossless`). A basic credential holds a user name and a
password with a colon between them. Whoever reads it back finds both as they were, unless the user
name has a colon of its own; and it can be sent in a header whatever they are. So direct credentials
drop the password only with a signer in hand, and leave the settings as they are in every other
case.
-/

namespace ControlPlane

open Program

namespace Bytes

theorem colon_mem_ofString_iff {text : String} : 0x3A ∈ ofString text ↔ ':' ∈ text.toList := by
  rw [ofString_eq_flatMap, List.mem_flatMap]
  constructor
  · rintro ⟨c, hc, hmem⟩
    have hcode : ':'.toNat = c.toNat := toNat_of_mem_encodeChar hmem (by decide)
    rwa [Char.toNat_inj.mp hcode]
  · intro hcolon
    exact ⟨':', hcolon, by decide⟩

end Bytes

namespace Base64

/-- What stands before and after the first colon. -/
def cutAtColon? (octets : Bytes) : Option (Bytes × Bytes) :=
  match octets.dropWhile (· ≠ 0x3A) with
  | [] => none
  | _ :: after => some (octets.takeWhile (· ≠ 0x3A), after)

/-- The user name and the password that a basic credential holds. -/
def readCredential? (credential : String) : Option (String × String) := do
  let octets ← decode? credential.toList
  let (before, after) ← cutAtColon? octets
  let username ← Bytes.decode? before
  let password ← Bytes.decode? after
  return (username, password)

theorem cutAtColon?_append {before : Bytes} (h : 0x3A ∉ before) (after : Bytes) :
    cutAtColon? (before ++ 0x3A :: after) = some (before, after) := by
  have hall : ∀ octet ∈ before, (octet ≠ 0x3A : Bool) := by
    intro octet hoctet
    exact decide_eq_true fun hcolon => h (hcolon ▸ hoctet)
  rw [cutAtColon?, List.dropWhile_append_of_pos hall, List.takeWhile_append_of_pos hall]
  simp

theorem colon_not_mem_of_cutAtColon? {octets before after : Bytes}
    (h : cutAtColon? octets = some (before, after)) : 0x3A ∉ before := by
  unfold cutAtColon? at h
  split at h
  · cases h
  · obtain ⟨rfl, -⟩ := Prod.mk.inj (Option.some.inj h)
    intro hmem
    have hall := List.all_eq_true.mp (List.all_takeWhile (l := octets)) _ hmem
    exact absurd hall (by decide)

theorem decode?_basicCredential (username password : String) :
    decode? (basicCredential username password).toList =
      some (Bytes.ofString username ++ 0x3A :: Bytes.ofString password) := by
  have hcolon : Bytes.ofString ":" = [0x3A] := by decide +kernel
  rw [basicCredential, String.toList_ofList, decode?_encode]
  simp only [Bytes.ofString_eq_flatMap, String.toList_append, List.flatMap_append] at hcolon ⊢
  rw [hcolon, List.append_assoc]
  rfl

/-- **Basic credentials are read back**, exactly if the user name has no colon. -/
theorem readCredential?_basicCredential {username password : String} :
    readCredential? (basicCredential username password) = some (username, password) ↔
      ':' ∉ username.toList := by
  rw [← Bytes.colon_mem_ofString_iff, readCredential?, decode?_basicCredential]
  constructor
  · intro hread
    simp only [Option.bind_eq_bind, Option.bind_some, Option.bind_eq_some_iff, Prod.exists] at hread
    obtain ⟨before, after, hcut, name, hname, text, -, hpair⟩ := hread
    obtain ⟨rfl, -⟩ := Prod.mk.inj (Option.some.inj hpair)
    rw [← Bytes.eq_ofString_of_decode? hname]
    exact colon_not_mem_of_cutAtColon? hcut
  · intro hcolon
    simp [cutAtColon?_append hcolon, Bytes.decode?_ofString]

end Base64

/-- Any user name and password can be sent as a basic credential. -/
theorem Signer.authorizationHeader_basic (username password : String) :
    authorizationHeader "Basic" (Base64.basicCredential username password) =
      .ok (.authorization, ⟨"Basic " ++ Base64.basicCredential username password, true⟩) := by
  have hsigner := ofCredential_basic username password
  unfold ofCredential at hsigner
  cases hheader : authorizationHeader "Basic" (Base64.basicCredential username password) with
  | error error =>
      rw [AuthKind.scheme, hheader] at hsigner
      cases hsigner
  | ok header =>
      rw [AuthKind.scheme, hheader] at hsigner
      obtain ⟨-, hrule⟩ := Signer.mk.inj (Except.ok.inj hsigner)
      rw [List.singleton_inj.mp (SignerRule.fixed.inj hrule)]

namespace Authenticator

variable {config : Config} {trace : List Asked} {found : Config × Verdict}

/-- Direct credentials change the settings only with a signer in hand. -/
theorem direct_unchanged (hrun : (direct.resolve config).Runs trace found)
    (h : ∀ signer, found.2 ≠ .ok (some signer)) : found.1 = config := by
  obtain ⟨-, rfl⟩ := runs_direct .bare hrun
  exact usesHost_direct.unchanged h

theorem exists_signer_of_cleared (hrun : (direct.resolve config).Runs trace found)
    (h : found.1.password ≠ config.password) : ∃ signer, found.2 = .ok (some signer) := by
  refine Classical.byContradiction fun hnone => h ?_
  exact congrArg Config.password (direct_unchanged hrun (not_exists.mp hnone))

/-- **Basic credentials.** They are read back as they were, can always be sent, and so cost the
settings their password only when there is a signer for it. -/
theorem basicCredential_lossless (username password : String) :
    (Base64.readCredential? (Base64.basicCredential username password) =
        some (username, password) ↔ ':' ∉ username.toList) ∧
      Signer.authorizationHeader "Basic" (Base64.basicCredential username password) =
        .ok (.authorization, ⟨"Basic " ++ Base64.basicCredential username password, true⟩) ∧
      ∀ config trace found, (direct.resolve config).Runs trace found →
        (found.1.password ≠ config.password → ∃ signer, found.2 = .ok (some signer)) ∧
          ((∀ signer, found.2 ≠ .ok (some signer)) → found.1 = config) :=
  ⟨Base64.readCredential?_basicCredential, Signer.authorizationHeader_basic username password,
    fun _ _ _ hrun => ⟨exists_signer_of_cleared hrun, direct_unchanged hrun⟩⟩

/-- Settings of a user whose password is nothing but a colon. -/
def colonSettings : Config :=
  { host := some "h", username := some "ü", password := some ":" }

theorem basicCredential_lossless_colon :
    let resolving := direct.resolve colonSettings
    Base64.readCredential? (Base64.basicCredential "ü" ":") = some ("ü", ":") ∧
      resolving.Runs (resolving.askAll .bare) (resolving.answerAll .bare) ∧
      (resolving.answerAll .bare).1.password = none ∧
      ∃ signer, (resolving.answerAll .bare).2 = .ok (some signer) := by
  have hlossless := basicCredential_lossless "ü" ":"
  have hruns := runs_askAll .bare (direct.resolve colonSettings)
  have hcleared : ((direct.resolve colonSettings).answerAll .bare).1.password = none := by
    decide +kernel
  refine ⟨hlossless.1.mpr (by decide), hruns, hcleared, ?_⟩
  refine (hlossless.2.2 colonSettings _ _ hruns).1 ?_
  rw [hcleared]
  simp [colonSettings]

end Authenticator

end ControlPlane
