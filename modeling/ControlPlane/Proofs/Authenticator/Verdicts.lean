import ControlPlane.Proofs.Authenticator.Asks

/-!
# What runs of authenticators come to

Under answers that may change from one question to the next, each authenticator declines under the
condition that the settings set, hands back the settings it was given, and has the effects of its
own means alone. The command is run once, and its answer alone makes the authenticator decline.
-/

namespace ControlPlane

open Program

variable {config : Config} {trace : List Asked} {found : Config × Verdict}

namespace Authenticator

theorem runs_ofReader {name : String} {find : Config → Attempt (Option Signer)}
    (h : ((ofReader name find).resolve config).Runs trace found) :
    found.1 = config ∧ (find config).run.Runs trace found.2 := by
  obtain ⟨first, verdict, last, rfl, hfind, hdone⟩ := runs_bind_iff.mp h
  obtain ⟨rfl, rfl⟩ := runs_done_iff.mp hdone
  exact ⟨rfl, by simpa using hfind⟩

/-! ### Direct credentials -/

theorem runs_direct_of_none (hcredential : directCredential? config = none)
    (h : (direct.resolve config).Runs trace found) : trace = [] ∧ found = (config, .ok none) := by
  simp only [direct, hcredential] at h
  exact runs_done_iff.mp h

theorem runs_direct (answers : Answers) (h : (direct.resolve config).Runs trace found) :
    Quiet trace ∧ found = direct.outcome answers config :=
  runs_of_isLog h (asks_direct config) answers

/-- The verdict of an authenticator whose signers hold one credential. -/
inductive FixedVerdict : Verdict → Prop where
  | fails (error : Error) : FixedVerdict (.error (.error error))
  | declines : FixedVerdict (.ok none)
  | signs {kind : AuthKind} {credential : String} {signer : Signer}
      (h : Signer.ofCredential kind credential = .ok signer) : FixedVerdict (.ok (some signer))

theorem every_direct (config : Config) :
    (direct.resolve config).Every fun found => FixedVerdict found.2 := by
  apply every_of_isLog (asks_direct config) Answers.bare
  change FixedVerdict (direct.outcome Answers.bare config).2
  cases hcredential : directCredential? config with
  | none =>
      rw [outcome_direct_of_none hcredential]
      exact .declines
  | some credential =>
      cases hhost : nonEmpty config.host with
      | none =>
          rw [outcome_direct_of_hostless hcredential hhost]
          exact .fails _
      | some host =>
          rw [outcome_direct_of_host hcredential hhost]
          cases hsigner : Signer.ofCredential credential.kind credential.text with
          | error error => exact .fails error
          | ok signer => exact .signs hsigner

/-! ### The profile -/

/-- Settings with another host, and with the default profile if they named none. -/
def Completes (config later : Config) : Prop :=
  ∃ host name, later = { config with host := host, profile := name } ∧
    (name = config.profile ∨ nonEmpty config.profile = none ∧ name = some defaultProfile)

theorem Completes.same (config : Config) : Completes config config :=
  ⟨config.host, config.profile, rfl, .inl rfl⟩

theorem every_useProfile (config : Config) (path name : String) (pairs : List (String × String)) :
    (useProfile config path name pairs).Every fun found =>
      FixedVerdict found.2 ∧ ∃ host, found.1 = { config with host := host } := by
  unfold useProfile
  split
  · exact ⟨.fails _, config.host, rfl⟩
  · cases nonEmpty (Profile.valueOf pairs "host") with
    | none => exact ⟨.fails _, config.host, rfl⟩
    | some host =>
        obtain ⟨kind, credential⟩ := profileCredential pairs
        dsimp only
        split
        · exact ⟨.fails _, some host, rfl⟩
        · intro _
          cases hsigner : Signer.ofCredential kind credential with
          | error error => exact ⟨.fails _, some host, rfl⟩
          | ok signer => exact ⟨.signs hsigner, some host, rfl⟩

theorem every_useFile (config : Config) (path : String) (file : Profile.File) :
    (useFile config path file).Every fun found =>
      FixedVerdict found.2 ∧ Completes config found.1 := by
  unfold useFile
  cases hname : nonEmpty config.profile with
  | some name =>
      refine (every_useProfile config path name _).mono ?_
      rintro found ⟨hverdict, host, hfound⟩
      exact ⟨hverdict, host, config.profile, hfound, .inl rfl⟩
  | none =>
      intro _
      refine (every_useProfile _ path defaultProfile _).mono ?_
      rintro found ⟨hverdict, host, hfound⟩
      exact ⟨hverdict, host, some defaultProfile, hfound, .inr ⟨hname, rfl⟩⟩

theorem every_profile [Wording] (config : Config) :
    (profile.resolve config).Every fun found =>
      FixedVerdict found.2 ∧ Completes config found.1 := by
  have hsame := Completes.same config
  unfold profile
  dsimp only
  rw [every_bind]
  apply every_of_forall
  intro path
  cases path with
  | error error => exact ⟨.fails _, hsame⟩
  | ok path =>
      dsimp only
      rw [every_bind]
      apply every_of_forall
      intro text
      rcases text with (_ | message) | text
      · intro _
        exact ⟨.declines, hsame⟩
      · exact ⟨.fails _, hsame⟩
      · dsimp only
        cases Profile.File.parse? text with
        | none => exact ⟨.fails _, hsame⟩
        | some file => exact every_useFile config path file

/-! ### Azure -/

theorem runs_azureClientSecret_of_none (hprincipal : principal? config.azure = none)
    (h : (azureClientSecret.resolve config).Runs trace found) :
    trace = [] ∧ found = (config, .ok none) := by
  obtain ⟨hconfig, h⟩ := runs_ofReader h
  simp only [hprincipal] at h
  obtain ⟨rfl, hverdict⟩ := runs_done_iff.mp h
  exact ⟨rfl, Prod.ext hconfig hverdict⟩

/-- The verdict is not that the authenticator declines. -/
def Decisive (verdict : Verdict) : Prop :=
  verdict ≠ .ok none

theorem decisive_error (failure : Failure) : Decisive (.error failure) := by
  simp [Decisive]

/-- The verdict of an authenticator that does not decline, and whose signer draws its tokens from one
of these sources. -/
inductive RefreshingVerdict (sources : TokenSource → Prop) : Verdict → Prop where
  | fails (failure : Failure) : RefreshingVerdict sources (.error failure)
  | signs (kind : AuthKind) {inner : TokenSigner} (h : sources inner.source) :
      RefreshingVerdict sources (.ok (some ⟨kind, .refreshing inner⟩))

theorem RefreshingVerdict.decisive {sources : TokenSource → Prop} {verdict : Verdict}
    (h : RefreshingVerdict sources verdict) : Decisive verdict := by
  cases h with
  | fails failure => exact decisive_error failure
  | signs kind hsource => exact fun h => by cases h

theorem azureSigner_eq_ok {kind : AuthKind} {source : TokenSource} {token : Token}
    {resourceId : Option String} {signer : Signer}
    (h : azureSigner kind source token resourceId = .ok signer) :
    ∃ inner, signer = ⟨kind, .refreshing inner⟩ ∧ inner.source = source := by
  unfold azureSigner at h
  cases resourceId with
  | none =>
      obtain rfl := Except.ok.inj h
      exact ⟨_, rfl, rfl⟩
  | some resourceId =>
      cases hheader : FixedHeader.ofTexts resourceIdHeader resourceId with
      | error error =>
          simp only [TokenSigner.withHeader, hheader] at h
          cases h
      | ok header =>
          simp only [TokenSigner.withHeader, hheader] at h
          obtain rfl := Except.ok.inj h
          exact ⟨_, rfl, rfl⟩

theorem every_azureSigner (kind : AuthKind) (source : TokenSource) (token : Token)
    (resourceId : Option String) :
    (do
      let signer ← Attempt.ofExcept (azureSigner kind source token resourceId)
      return some signer : Attempt (Option Signer)).run.Every
        (RefreshingVerdict (· = source)) := by
  cases hsigner : azureSigner kind source token resourceId with
  | error error => exact RefreshingVerdict.fails _
  | ok signer =>
      obtain ⟨inner, rfl, hsource⟩ := azureSigner_eq_ok hsigner
      exact RefreshingVerdict.signs kind hsource

theorem every_ofReader {name : String} {find : Config → Attempt (Option Signer)}
    {property : Verdict → Prop} (h : (find config).run.Every property) :
    ((ofReader name find).resolve config).Every fun found => property found.2 := by
  unfold ofReader
  rw [every_bind]
  exact h

theorem every_azureClientSecret {principal : Principal}
    (hprincipal : principal? config.azure = some principal) :
    (azureClientSecret.resolve config).Every fun found =>
      RefreshingVerdict (· = principal.token) found.2 := by
  apply every_ofReader
  simp only [hprincipal]
  apply Attempt.every_bind_of_fails RefreshingVerdict.fails
  intro _
  apply Attempt.every_bind_of_fails RefreshingVerdict.fails
  intro token
  apply Attempt.every_bind_of_fails RefreshingVerdict.fails
  intro _
  exact every_azureSigner ..

/-- Without a host, an authenticator that needs one fails before it does anything. -/
theorem requireHost_bind_of_none {method : String} {next : Unit → Attempt (Option Signer)}
    (hhost : nonEmpty config.host = none) :
    (requireHost config method >>= next) = Attempt.fail (hostRequired method) := by
  simp only [requireHost, hhost]
  rfl

theorem requireHost_bind_of_some {method : String} {next : Unit → Attempt (Option Signer)}
    {host : String} (hhost : nonEmpty config.host = some host) :
    (requireHost config method >>= next) = next () := by
  simp only [requireHost, hhost]
  rfl

variable [Wording]

theorem runs_azureCli_of_none (hresource : nonEmpty config.azure.resourceId = none)
    (h : (azureCli.resolve config).Runs trace found) : trace = [] ∧ found = (config, .ok none) := by
  obtain ⟨hconfig, h⟩ := runs_ofReader h
  simp only [hresource] at h
  obtain ⟨rfl, hverdict⟩ := runs_done_iff.mp h
  exact ⟨rfl, Prod.ext hconfig hverdict⟩

theorem runs_azureCli_of_hostless {resourceId : String}
    (hresource : nonEmpty config.azure.resourceId = some resourceId)
    (hhost : nonEmpty config.host = none) (h : (azureCli.resolve config).Runs trace found) :
    trace = [] ∧ found = (config, .error (.error (hostRequired "azure_cli"))) := by
  obtain ⟨hconfig, h⟩ := runs_ofReader h
  simp only [hresource, requireHost_bind_of_none hhost] at h
  obtain ⟨rfl, hverdict⟩ := runs_done_iff.mp h
  exact ⟨rfl, Prod.ext hconfig hverdict⟩

/-- One run of the command, which finds no token only if the command is not installed. -/
theorem runs_runAzure {result : Except Failure (Option Token)}
    (h : runAzure.run.Runs trace result) :
    ∃ answer, effectsOf trace = [⟨.runCommand azureProgram azureArguments, answer⟩] ∧
      (result = .ok none ↔ answer = .error .notInstalled) := by
  unfold runAzure at h
  obtain ⟨logged, mark, rest, rfl, hlog, hrest⟩ := Attempt.runs_lift_bind_iff.mp h
  obtain ⟨ran, answer, last, rfl, hran, hlast⟩ := Attempt.runs_lift_bind_iff.mp hrest
  obtain rfl := runs_query_iff.mp hlog
  obtain rfl := runs_query_iff.mp hran
  suffices hend : last = [] ∧ (result = .ok none ↔ answer = .error .notInstalled) by
    obtain ⟨rfl, hanswer⟩ := hend
    exact ⟨answer, rfl, hanswer⟩
  rcases answer with (_ | message) | output
  · obtain ⟨rfl, rfl⟩ := runs_done_iff.mp hlast
    simp
  · obtain ⟨rfl, rfl⟩ := runs_done_iff.mp hlast
    simp
  · dsimp only at hlast
    -- Of an installed command, each way of reading the output is an end of the run.
    cases hprinted : readPrinted? output.stdout <;> rw [hprinted] at hlast <;> split at hlast
    all_goals
      obtain ⟨rfl, rfl⟩ := runs_done_iff.mp hlast
      simp

theorem runs_azureCli {resourceId host : String}
    (hresource : nonEmpty config.azure.resourceId = some resourceId)
    (hhost : nonEmpty config.host = some host) (h : (azureCli.resolve config).Runs trace found) :
    found.1 = config ∧
      ∃ answer, effectsOf trace = [⟨.runCommand azureProgram azureArguments, answer⟩] ∧
        (found.2 = .ok none ↔ answer = .error .notInstalled) := by
  obtain ⟨hconfig, h⟩ := runs_ofReader h
  refine ⟨hconfig, ?_⟩
  simp only [hresource, requireHost_bind_of_some hhost] at h
  rcases Attempt.runs_bind_iff.mp h with
    ⟨failure, hrun, hverdict⟩ | ⟨first, token, second, rfl, hrun, hrest⟩
  · obtain ⟨answer, heffects, hanswer⟩ := runs_runAzure hrun
    refine ⟨answer, heffects, ?_⟩
    rw [hverdict, ← hanswer]
    simp
  · obtain ⟨answer, heffects, hanswer⟩ := runs_runAzure hrun
    suffices hend : Quiet second ∧ (found.2 = .ok none ↔ token = none) by
      refine ⟨answer, ?_, ?_⟩
      · rw [effectsOf_append, heffects, effectsOf_eq_nil_iff.mpr hend.1, List.append_nil]
      · rw [hend.2, ← hanswer, Except.ok.injEq]
    cases token with
    | none =>
        have hlogs := runs_of_isLog hrest
          (Attempt.asks_bind (asks_announce trivial) fun _ => Attempt.asks_pure _) Answers.bare
        refine ⟨hlogs.1, ?_⟩
        rw [hlogs.2]
        simp only [iff_true]
        rfl
    | some token =>
        have hverdict : RefreshingVerdict (· = azureCliToken) found.2 :=
          hrest.every (Attempt.every_bind_of_fails RefreshingVerdict.fails fun _ => every_azureSigner ..)
        refine ⟨hrest.asks ?_, iff_of_false hverdict.decisive (by simp)⟩
        apply Attempt.asks_bind (asks_announce trivial)
        intro _
        exact Attempt.asks_bind (Attempt.asks_ofExcept _) fun _ => Attempt.asks_pure _

/-! ### Google -/

theorem runs_google_of_none {surface : Surface}
    (hnone : nonEmpty config.google.serviceAccount = none ∨ Surface.ofConfig config ≠ surface)
    (h : ((google surface).resolve config).Runs trace found) :
    trace = [] ∧ found = (config, .ok none) := by
  obtain ⟨hconfig, h⟩ := runs_ofReader h
  cases haccount : nonEmpty config.google.serviceAccount with
  | none =>
      simp only [haccount] at h
      obtain ⟨rfl, hverdict⟩ := runs_done_iff.mp h
      exact ⟨rfl, Prod.ext hconfig hverdict⟩
  | some serviceAccount =>
      have hother : Surface.ofConfig config ≠ surface := by simpa [haccount] using hnone
      simp only [haccount, if_pos hother] at h
      obtain ⟨rfl, hverdict⟩ := runs_done_iff.mp h
      exact ⟨rfl, Prod.ext hconfig hverdict⟩

theorem every_google {surface : Surface} {serviceAccount : String}
    (hsurface : Surface.ofConfig config = surface)
    (haccount : nonEmpty config.google.serviceAccount = some serviceAccount) :
    ((google surface).resolve config).Every fun found =>
      RefreshingVerdict (fun source => ∃ account : GoogleAccount, source = account.token)
        found.2 := by
  apply every_ofReader
  simp only [haccount, hsurface, ne_eq, not_true_eq_false, if_false]
  apply Attempt.every_bind_of_fails RefreshingVerdict.fails
  intro _
  apply Attempt.every_bind_of_fails RefreshingVerdict.fails
  intro key
  apply Attempt.every_bind_of_fails RefreshingVerdict.fails
  intro token
  apply Attempt.every_bind_of_fails RefreshingVerdict.fails
  intro _
  exact RefreshingVerdict.signs _ ⟨_, rfl⟩

end Authenticator

end ControlPlane
