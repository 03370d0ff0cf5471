import ControlPlane.Proofs.Authenticator.Decision
import ControlPlane.Proofs.Program.Effects

/-!
# What authenticators ask for

Each authenticator has its own means: the settings alone, one token endpoint, one command, the file
of a key and the endpoint it names, or the profile file. None of them touches the means of another,
and none of them makes an attempt of a call.
-/

namespace ControlPlane

open Program

/-- The request that posts a form to an endpoint. -/
def Endpoint.Posts (urlText : String) (form : List (String × String)) (request : Request) : Prop :=
  ∃ url, Url.parse urlText = .ok url ∧ request = formRequest url form

/-- The path that a text stands for in some home directory. -/
def Home.Expands (text path : String) : Prop :=
  ∃ home, expand home text = .ok path

variable {allowed : Query → Prop}

theorem Home.asks_expandPath (path : String) (h : allowed .homeDirectory) :
    (expandPath path).Asks allowed := by
  unfold expandPath
  split
  · exact asks_done _
  · exact Asks.bind (asks_query _ |>.mpr h) fun home => asks_done _

theorem Home.every_expandPath (text : String) :
    (expandPath text).Every fun result => ∀ path, result = .ok path → Expands text path := by
  unfold expandPath
  split
  · next htilde =>
      intro path hpath
      exact ⟨none, by simpa [expand, htilde] using hpath⟩
  · intro home path hpath
    exact ⟨home, hpath⟩

/-- A program that first finds out what path a text stands for, and then reads no other file. -/
def Home.Reads {α : Type} (others : Query → Prop) (text : String) (program : Program α) : Prop :=
  ∃ next, program = expandPath text >>= next ∧ (∀ error, (next (.error error)).Asks others) ∧
    ∀ path, (next (.ok path)).Asks fun query => others query ∨ query = .readFile path

theorem Home.Reads.asks {α : Type} {others : Query → Prop} {text : String} {program : Program α}
    (h : Reads others text program) (hothers : ∀ query, others query → allowed query)
    (hhome : allowed .homeDirectory) (hread : ∀ path, Expands text path → allowed (.readFile path)) :
    program.Asks allowed := by
  obtain ⟨next, rfl, herror, hok⟩ := h
  refine asks_bind_iff.mpr ⟨asks_expandPath _ hhome, ?_⟩
  refine (every_expandPath text).mono fun result hresult => ?_
  cases result with
  | error error => exact (herror error).mono hothers
  | ok path =>
      refine (hok path).mono fun query hquery => ?_
      rcases hquery with hother | rfl
      · exact hothers query hother
      · exact hread path (hresult path rfl)

theorem Program.asks_readText {path : String} (h : allowed (.readFile path)) :
    (readText path).Asks allowed := by
  refine Asks.bind (asks_query _ |>.mpr h) fun result => ?_
  cases result with
  | error fault => exact asks_done _
  | ok octets =>
      dsimp only
      split <;> exact asks_done _

namespace Endpoint

theorem asks_post {urlText : String} {form : List (String × String)}
    (h : ∀ request, Posts urlText form request → allowed (.exchange request)) :
    (post urlText form).run.Asks allowed := by
  unfold post
  cases hparse : Url.parse urlText with
  | error error => exact Attempt.asks_fail _
  | ok url =>
      dsimp only
      split
      · exact Attempt.asks_fail _
      · apply Attempt.asks_bind
        · apply Attempt.asks_lift
          unfold sendOverWire
          split
          · exact asks_done _
          · exact (asks_query _).mpr (h _ ⟨url, hparse, rfl⟩)
        · intro result
          cases result with
          | error fault => exact Attempt.asks_fail _
          | ok response => exact Attempt.asks_pure _

theorem asks_lastingToken (text : String) (seconds : Int) (h : allowed .wallClock) :
    (lastingToken text seconds).run.Asks allowed := by
  apply Attempt.asks_bind
  · exact Attempt.asks_lift ((asks_query _).mpr h)
  · intro now
    cases Token.lasting? text now seconds with
    | none => exact Attempt.asks_throw _
    | some token => exact Attempt.asks_pure _

theorem asks_accessTokenOf (grant : Grant) (h : allowed .wallClock) :
    (accessTokenOf grant).run.Asks allowed := by
  unfold accessTokenOf
  split
  · exact Attempt.asks_pure _
  · exact Attempt.asks_pure _
  · exact Attempt.asks_bind (asks_lastingToken _ _ h) fun token => Attempt.asks_pure _

end Endpoint

namespace Authenticator

theorem asks_ofReader {name : String} {find : Config → Attempt (Option Signer)} {config : Config}
    (h : (find config).run.Asks allowed) : ((ofReader name find).resolve config).Asks allowed :=
  Asks.bind h fun _ => asks_done _

theorem asks_requireHost (config : Config) (method : String) :
    (requireHost config method).run.Asks allowed := by
  unfold requireHost
  split
  · exact Attempt.asks_fail _
  · exact Attempt.asks_pure _

theorem asks_announce {line : String} (h : allowed (.log .info line)) :
    (announce line).run.Asks allowed :=
  Attempt.asks_lift ((asks_query _).mpr h)

/-! ### Direct credentials -/

theorem asks_useDirect (config : Config) (credential : Credential) :
    (useDirect config credential).Asks Query.IsLog := by
  have hlog (line : String) : (Program.info line).Asks Query.IsLog := (asks_query _).mpr trivial
  unfold useDirect
  extract_lets kept goOn
  have hgoOn (mark : PUnit) : (goOn mark).Asks Query.IsLog := by
    unfold goOn
    cases nonEmpty config.host with
    | none => exact asks_done _
    | some host =>
        refine (hlog _).bind fun _ => ?_
        cases Signer.ofCredential credential.kind credential.text <;> exact asks_done _
  split
  · exact (hlog _).bind hgoOn
  · exact hgoOn ()

theorem asks_direct (config : Config) : (direct.resolve config).Asks Query.IsLog := by
  unfold direct
  dsimp only
  split
  · exact asks_done _
  · exact asks_useDirect ..

/-! ### Azure -/

/-- A token endpoint, and the clock that the lifetime of its tokens is counted from. -/
def Principal.Allows (principal : Principal) : Query → Prop
  | .log _ _ => True
  | .wallClock => True
  | .exchange request => Endpoint.Posts principal.tokenUrl principal.form request
  | _ => False

theorem Principal.asks_token (principal : Principal) :
    principal.token.run.Asks principal.Allows := by
  unfold Principal.token
  apply Attempt.asks_bind (Endpoint.asks_post fun request h => h)
  intro response
  extract_lets goOn
  have hgoOn (mark : PUnit) : (goOn mark).run.Asks principal.Allows := by
    apply Attempt.asks_bind (Attempt.asks_ofOption ..)
    intro grant
    apply Attempt.asks_bind (Endpoint.asks_accessTokenOf grant trivial)
    intro token
    cases token with
    | none => exact Attempt.asks_fail _
    | some token => exact Attempt.asks_pure _
  split
  · exact Attempt.asks_bind (Attempt.asks_fail _) hgoOn
  · exact hgoOn ()

theorem asks_azureClientSecret {config : Config} {principal : Principal}
    (hprincipal : principal? config.azure = some principal) :
    (azureClientSecret.resolve config).Asks principal.Allows := by
  apply asks_ofReader
  simp only [hprincipal]
  apply Attempt.asks_bind (asks_requireHost ..)
  intro _
  apply Attempt.asks_bind principal.asks_token
  intro token
  apply Attempt.asks_bind (asks_announce trivial)
  intro _
  exact Attempt.asks_bind (Attempt.asks_ofExcept _) fun _ => Attempt.asks_pure _

/-- One command. -/
def AllowsAzure : Query → Prop
  | .log _ _ => True
  | .runCommand program arguments => program = azureProgram ∧ arguments = azureArguments
  | _ => False

variable [Wording]

theorem asks_runAzure : runAzure.run.Asks AllowsAzure := by
  unfold runAzure
  apply Attempt.asks_bind (Attempt.asks_lift ((asks_query _).mpr trivial))
  intro _
  apply Attempt.asks_bind (Attempt.asks_lift ((asks_query _).mpr ⟨rfl, rfl⟩))
  intro answer
  rcases answer with (_ | message) | output
  · exact Attempt.asks_pure _
  · exact Attempt.asks_fail _
  · dsimp only
    cases readPrinted? output.stdout with
    | none =>
        split
        · exact Attempt.asks_bind (Attempt.asks_fail _) fun _ => Attempt.asks_fail _
        · exact Attempt.asks_fail _
    | some token =>
        split
        · exact Attempt.asks_bind (Attempt.asks_fail _) fun _ => Attempt.asks_pure _
        · exact Attempt.asks_pure _

theorem asks_azureCliToken : azureCliToken.run.Asks AllowsAzure := by
  apply Attempt.asks_bind asks_runAzure
  intro token
  cases token with
  | none => exact Attempt.asks_fail _
  | some token => exact Attempt.asks_pure _

theorem asks_azureCli (config : Config) : (azureCli.resolve config).Asks AllowsAzure := by
  apply asks_ofReader
  cases nonEmpty config.azure.resourceId with
  | none => exact Attempt.asks_pure _
  | some resourceId =>
      apply Attempt.asks_bind (asks_requireHost ..)
      intro _
      apply Attempt.asks_bind asks_runAzure
      intro token
      cases token with
      | none => exact Attempt.asks_bind (asks_announce trivial) fun _ => Attempt.asks_pure _
      | some token =>
          apply Attempt.asks_bind (asks_announce trivial)
          intro _
          exact Attempt.asks_bind (Attempt.asks_ofExcept _) fun _ => Attempt.asks_pure _

/-! ### Google -/

/-- The file of the key. -/
def AllowsKey (config : Config) : Query → Prop
  | .homeDirectory => True
  | .readFile path =>
      ∃ credentials, nonEmpty config.google.credentials = some credentials ∧
        Home.Expands credentials path
  | _ => False

/-- The file of the key and the endpoint that assertions are exchanged at. -/
def AllowsGoogle (config : Config) : Query → Prop
  | .log _ _ => True
  | .wallClock => True
  | .homeDirectory => True
  | .readFile path =>
      ∃ credentials, nonEmpty config.google.credentials = some credentials ∧
        Home.Expands credentials path
  | .exchange request =>
      ∃ (key : ServiceAccountKey) (assertion : String),
        Endpoint.Posts key.effectiveTokenUri
          [("grant_type", assertionGrant), ("assertion", assertion)] request
  | _ => False

/-- A key that is given as such is read from no file. -/
theorem reads_load (credentials : String) :
    (∃ result, ServiceAccountKey.load credentials = .done result) ∨
      Home.Reads (fun _ => False) credentials (ServiceAccountKey.load credentials) := by
  unfold ServiceAccountKey.load
  dsimp only
  split
  · exact .inl ⟨_, rfl⟩
  · refine .inr ⟨_, rfl, fun error => asks_done _, fun path => ?_⟩
    refine (asks_readText (.inr rfl)).bind fun text => ?_
    cases text <;> exact asks_done _

theorem asks_load {config : Config} {credentials : String}
    (hcredentials : nonEmpty config.google.credentials = some credentials) :
    (ServiceAccountKey.load credentials).Asks (AllowsKey config) := by
  rcases reads_load credentials with ⟨result, hdone⟩ | hreads
  · rw [hdone]
    exact asks_done _
  · exact hreads.asks nofun trivial fun path hpath => ⟨credentials, hcredentials, hpath⟩

theorem asks_loadKey (config : Config) (serviceAccount : String) :
    (loadKey config serviceAccount).run.Asks (AllowsKey config) := by
  unfold loadKey
  cases hcredentials : nonEmpty config.google.credentials with
  | none => exact Attempt.asks_fail _
  | some credentials =>
      apply Attempt.asks_bind (Attempt.asks_lift (asks_load hcredentials))
      intro loaded
      apply Attempt.asks_bind (Attempt.asks_ofExcept _)
      intro key
      dsimp only
      split
      · exact Attempt.asks_bind (Attempt.asks_fail _) fun _ => Attempt.asks_pure _
      · exact Attempt.asks_pure _

variable (account : GoogleAccount) (config : Config)

theorem GoogleAccount.asks_exchange (claim value : String) :
    (account.exchange claim value).run.Asks (AllowsGoogle config) := by
  unfold GoogleAccount.exchange
  apply Attempt.asks_bind (Attempt.asks_lift ((asks_query _).mpr trivial))
  intro now
  apply Attempt.asks_bind (Attempt.asks_ofExcept _)
  intro assertion
  apply Attempt.asks_bind
    (Endpoint.asks_post fun request hposts => ⟨account.key, assertion, hposts⟩)
  intro response
  dsimp only
  split
  · exact Attempt.asks_bind (Attempt.asks_fail _) fun _ => Attempt.asks_ofOption ..
  · exact Attempt.asks_ofOption ..

theorem GoogleAccount.asks_token : account.token.run.Asks (AllowsGoogle config) := by
  have hidentity : account.identityToken.run.Asks (AllowsGoogle config) := by
    apply Attempt.asks_bind (account.asks_exchange config ..)
    intro grant
    cases grant.idToken with
    | none => exact Attempt.asks_fail _
    | some text => exact Endpoint.asks_lastingToken _ _ trivial
  have haccess : account.accessToken.run.Asks (AllowsGoogle config) := by
    apply Attempt.asks_bind (account.asks_exchange config ..)
    intro grant
    apply Attempt.asks_bind (Endpoint.asks_accessTokenOf grant trivial)
    intro token
    cases token with
    | none => exact Attempt.asks_fail _
    | some token => exact Attempt.asks_pure _
  apply Attempt.asks_bind hidentity
  intro identity
  cases account.surface with
  | workspace => exact Attempt.asks_pure _
  | accounts => exact Attempt.asks_bind haccess fun _ => Attempt.asks_pure _

theorem asks_google (surface : Surface) (config : Config) :
    ((google surface).resolve config).Asks (AllowsGoogle config) := by
  have hkey (query : Query) (h : AllowsKey config query) : AllowsGoogle config query := by
    cases query with
    | homeDirectory => trivial
    | readFile path => exact h
    | _ => cases h
  apply asks_ofReader
  cases nonEmpty config.google.serviceAccount with
  | none => exact Attempt.asks_pure _
  | some serviceAccount =>
      dsimp only
      split
      · exact Attempt.asks_pure _
      · apply Attempt.asks_bind (asks_requireHost ..)
        intro _
        apply Attempt.asks_bind ((asks_loadKey ..).mono hkey)
        intro key
        apply Attempt.asks_bind (GoogleAccount.asks_token _ config)
        intro token
        exact Attempt.asks_bind (asks_announce trivial) fun _ => Attempt.asks_pure _

/-! ### Profiles -/

/-- The profile file. -/
def AllowsProfile (config : Config) : Query → Prop
  | .log _ _ => True
  | .homeDirectory => True
  | .readFile path => Home.Expands ((nonEmpty config.configFile).getD defaultProfileFile) path
  | _ => False

omit [Wording] in
theorem asks_useProfile (config : Config) (path name : String) (pairs : List (String × String)) :
    (useProfile config path name pairs).Asks Query.IsLog := by
  unfold useProfile
  split
  · exact asks_done _
  · cases nonEmpty (Profile.valueOf pairs "host") with
    | none => exact asks_done _
    | some host =>
        obtain ⟨kind, credential⟩ := profileCredential pairs
        dsimp only
        split
        · exact asks_done _
        · refine Asks.bind ((asks_query _).mpr trivial) fun _ => ?_
          cases Signer.ofCredential kind credential <;> exact asks_done _

omit [Wording] in
theorem asks_useFile (config : Config) (path : String) (file : Profile.File) :
    (useFile config path file).Asks Query.IsLog := by
  unfold useFile
  cases nonEmpty config.profile with
  | some name => exact asks_useProfile ..
  | none => exact Asks.bind ((asks_query _).mpr trivial) fun _ => asks_useProfile ..

theorem reads_profile (config : Config) :
    Home.Reads Query.IsLog ((nonEmpty config.configFile).getD defaultProfileFile)
      (profile.resolve config) := by
  refine ⟨_, rfl, fun error => asks_done _, fun path => ?_⟩
  have hlog (query : Query) (h : query.IsLog) : query.IsLog ∨ query = .readFile path := .inl h
  refine (asks_readText (.inr rfl)).bind fun text => ?_
  rcases text with (_ | message) | text
  · exact Asks.bind ((asks_query _).mpr (.inl trivial)) fun _ => asks_done _
  · exact asks_done _
  · dsimp only
    cases Profile.File.parse? text with
    | none => exact asks_done _
    | some file => exact (asks_useFile config path file).mono hlog

theorem asks_profile (config : Config) : (profile.resolve config).Asks (AllowsProfile config) := by
  refine (reads_profile config).asks (fun query h => ?_) trivial fun path hpath => hpath
  cases query <;> trivial

end Authenticator

end ControlPlane
