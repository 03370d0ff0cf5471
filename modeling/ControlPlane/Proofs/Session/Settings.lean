import ControlPlane.Proofs.Authenticator.Leaves
import ControlPlane.Proofs.Gate.Transcript
import ControlPlane.Proofs.Session.Runs
import ControlPlane.Proofs.Session.SingleWalk
import ControlPlane.Surroundings.Wording

/-!
# The settings that a session works with

Authenticators complete the settings and take a password out of them, some of them in calls that fail
afterwards. Whatever callers do in whatever order, and whatever they are answered, the settings stay
those of the start but for the host, the profile that was not named, and the password of a basic
credential in use; and the result names one host, which is also that of the settings, of the session
and of the identity token.
-/

namespace ControlPlane

namespace Workspace

/-- Whether a host says how it is spoken to. -/
def HasScheme (host : String) : Prop :=
  startsWith "https://" host ∨ startsWith "http://" host

theorem normalizeHost_of_hasScheme {host : String} (h : HasScheme host) :
    normalizeHost host = host := by
  unfold normalizeHost
  rcases h with h | h <;> simp [h]

theorem hasScheme_normalizeHost {host : String} (h : host ≠ "") :
    HasScheme (normalizeHost host) := by
  unfold normalizeHost
  split
  · next hcases =>
      have hnonempty : host.isEmpty = false := by simpa using h
      simpa [hnonempty, HasScheme] using hcases
  · left
    simp [startsWith, String.toList_append]

theorem ne_empty_of_hasScheme {host : String} (h : HasScheme host) : host ≠ "" := by
  rintro rfl
  revert h
  simp [HasScheme, startsWith]

end Workspace

namespace Session

open Authenticator Gate Gate.Crowd Workspace

variable {initial : Config} {session : Session} {past part : List Asked} {resolved : Resolved}

def UsesBasic (session : Session) : Prop :=
  ∃ resolved, session.resolved = some resolved ∧ resolved.authenticator = direct.name ∧
    resolved.signer.kind = .basic

section

variable [Wording]

/-- The one host of a result, after this was asked. -/
structure Bound (session : Session) (resolved : Resolved) (past : List Asked) : Prop where
  ne_empty : resolved.host ≠ ""
  scheme : HasScheme resolved.host
  normal : normalizeHost resolved.host = resolved.host
  session_host : session.host = some resolved.host
  config_host : session.config.host = some resolved.host
  audience : resolved.authenticator = googleAccounts.name ∨
    resolved.authenticator = googleWorkspace.name →
      ∃ (account : GoogleAccount) (token : Token),
        resolved.signer.rule = .refreshing { source := account.token, cached := token } ∧
          account.audience = resolved.host ∧ account.Requested token past

/-- The settings of a session, beside those that it started with. -/
structure KeepsSettings (initial : Config) (session : Session) (past : List Asked) : Prop where
  others : { session.config with
    host := initial.host, profile := initial.profile, password := initial.password } = initial
  profile : session.config.profile = initial.profile ∨
    nonEmpty initial.profile = none ∧ session.config.profile = some defaultProfile
  password_dropped : session.UsesBasic → session.config.password = none
  password_kept : ¬ session.UsesBasic → session.config.password = initial.password
  bound {resolved : Resolved} : session.resolved = some resolved → Bound session resolved past

theorem KeepsSettings.mono {more : List Asked} (h : KeepsSettings initial session past)
    (hmore : past ⊆ more) : KeepsSettings initial session more := by
  refine { h with bound := fun hresolved => ?_ }
  have hbound := h.bound hresolved
  refine { hbound with audience := fun hname => ?_ }
  obtain ⟨account, token, hrule, haudience, hrequested⟩ := hbound.audience hname
  exact ⟨account, token, hrule, haudience, hrequested.mono hmore⟩

theorem keepsSettings_start (initial : Config) (chain : List Authenticator) :
    KeepsSettings initial (start initial chain) [] where
  others := rfl
  profile := .inl rfl
  password_dropped := by
    rintro ⟨resolved, hresolved, -⟩
    cases hresolved
  password_kept _ := rfl
  bound hresolved := by cases hresolved

/-! ### One authenticator -/

omit [Wording] in
theorem not_usesBasic_of_open (hopen : session.resolved = none) : ¬ session.UsesBasic := by
  rintro ⟨resolved, hresolved, -⟩
  rw [hopen] at hresolved
  cases hresolved

/-- What an authenticator contributes to settings from which no password is gone yet. -/
theorem KeepsSettings.others_of_contributes (h : KeepsSettings initial session past) {name : String}
    {found : Config × Verdict} (hfound : Contributes name session.config part found) :
    { found.1 with
      host := initial.host, profile := initial.profile, password := initial.password } =
        initial := by
  have hothers := hfound.others
  have hinitial := h.others
  rw [← hothers] at hinitial
  exact hinitial

theorem KeepsSettings.profile_of_contributes (h : KeepsSettings initial session past)
    {name : String} {found : Config × Verdict}
    (hfound : Contributes name session.config part found) :
    found.1.profile = initial.profile ∨
      nonEmpty initial.profile = none ∧ found.1.profile = some defaultProfile := by
  rcases hfound.profile with hsame | ⟨hnone, hdefault⟩
  · rw [hsame]
    exact h.profile
  · rcases h.profile with hinitial | ⟨hinitial, -⟩
    · exact .inr ⟨hinitial ▸ hnone, hdefault⟩
    · exact .inr ⟨hinitial, hdefault⟩

/-- Nothing is told, or a failure: the settings are what the authenticator left. -/
theorem KeepsSettings.of_unresolved (h : KeepsSettings initial session past)
    (hopen : session.resolved = none) {name : String} {found : Config × Verdict}
    (hfound : Contributes name session.config part found)
    (htold : ∀ resolved, report name found ≠ some (.ok resolved)) :
    KeepsSettings initial { session with config := found.1 } past where
  others := h.others_of_contributes hfound
  profile := h.profile_of_contributes hfound
  password_dropped hbasic := absurd hbasic (not_usesBasic_of_open hopen)
  password_kept _ := by
    rw [← h.password_kept (not_usesBasic_of_open hopen)]
    apply hfound.password_kept
    intro signer hdirect hsigner hkind
    -- A basic credential is found only with a host, and then it is told.
    obtain ⟨hhost, -⟩ := hfound.password_dropped hdirect hsigner hkind
    obtain ⟨host, hhost⟩ := Option.isSome_iff_exists.mp hhost
    exact htold _ (report_of_signer hsigner hhost)
  bound hresolved := by
    rw [hopen] at hresolved
    cases hresolved

/-- A result is told: its host goes into the settings. -/
theorem KeepsSettings.of_resolved (h : KeepsSettings initial session past)
    (hopen : session.resolved = none) {name : String} {found : Config × Verdict}
    (hfound : Contributes name session.config part found) (hpart : part ⊆ past)
    (htold : report name found = some (.ok resolved)) :
    KeepsSettings initial
      { session with
        config := { found.1 with host := some resolved.host }
        resolved := resolved } past := by
  obtain ⟨signer, host, hsigner, hhost, rfl⟩ := report_eq_ok htold
  have hscheme : HasScheme (normalizeHost host) :=
    hasScheme_normalizeHost (nonEmpty_eq_some_iff.mp hhost).2
  refine
    { others := h.others_of_contributes hfound
      profile := h.profile_of_contributes hfound
      password_dropped := ?dropped
      password_kept := ?kept
      bound := ?bound }
  case dropped =>
    rintro ⟨other, hother, hdirect, hkind⟩
    obtain rfl := Option.some.inj hother
    exact (hfound.password_dropped hdirect hsigner hkind).2
  case kept =>
    intro hbasic
    rw [← h.password_kept (not_usesBasic_of_open hopen)]
    apply hfound.password_kept
    intro other hdirect hother hkind
    rw [hsigner] at hother
    obtain rfl := Option.some.inj (Except.ok.inj hother)
    exact hbasic ⟨_, rfl, hdirect, hkind⟩
  case bound =>
    intro other hother
    obtain rfl := Option.some.inj hother
    refine ⟨ne_empty_of_hasScheme hscheme, hscheme, normalizeHost_of_hasScheme hscheme, rfl, rfl, ?_⟩
    intro hname
    obtain ⟨account, token, hrule, haudience, hrequested⟩ := hfound.audience hname hsigner
    refine ⟨account, token, hrule, ?_, hrequested.mono hpart⟩
    rw [haudience, hhost, Option.getD_some]

theorem KeepsSettings.settled (h : KeepsSettings initial session past)
    (hopen : session.resolved = none) {name : String} {found : Config × Verdict}
    (hfound : Contributes name session.config part found) (hpart : part ⊆ past) :
    KeepsSettings initial (settled session name found).1 past := by
  unfold Session.settled
  split
  · next resolved htold => exact h.of_resolved hopen hfound hpart htold
  · next htold => exact h.of_unresolved hopen hfound htold

/-- Every stage of a walk, and its last resort, keeps the settings. -/
theorem kept_settings (initial : Config) :
    Kept (gate standardChain) (fun session => session.resolved = none)
      (KeepsSettings initial) where
  mono h hmore := h.mono hmore.subset
  stage {session past part result} hopen h hpart stage hstage hrun := by
    rcases List.mem_cons.mp hstage with rfl | hstage
    · obtain ⟨-, rfl⟩ := Program.runs_done_iff.mp hrun
      exact h
    · obtain ⟨authenticator, hmem, rfl⟩ := List.mem_map.mp hstage
      obtain ⟨middle, found, after, rfl, hresolve, -, rfl⟩ := runs_askAuthenticator hrun
      have hmiddle : middle ⊆ past := by
        intro asked hasked
        exact hpart.subset (List.mem_cons_of_mem _ (List.mem_append_left _ hasked))
      exact h.settled hopen (contributes_of_mem_standardChain hmem hresolve) hmiddle

end

def basicConfig : Config :=
  { host := some "a.b", username := some "u", password := some "p" }

/-- A caller fails to see its walk through, and the next one authenticates. -/
def twoCallers : List Event :=
  [.look 0 .bare, .look 1 .bare, .enter 0, .lookAgain 0 .bare, .advance 0 .bare, .advance 0 .bare,
    .goAway 0, .enter 1, .lookAgain 1 .bare, .advance 1 .bare, .advance 1 .bare, .advance 1 .bare,
    .advance 1 .bare, .advance 1 .bare, .leave 1]

end Session

end ControlPlane
