import ControlPlane.Proofs.Authenticator.Lifetimes
import ControlPlane.Proofs.Session.Runs
import ControlPlane.Surroundings.Wording

/-!
# Which authenticator decides

A walk along a chain is a sequence of authenticators that decline and one that decides, each with
the effects of its own run. For the standard chain the settings say which one that is, up to the one
question whether the command line tool is installed, and no authenticator after it has any effect.
-/

namespace ControlPlane

def Query.IsCommand : Query → Prop
  | .runCommand _ _ => True
  | _ => False

namespace Session

open Program Authenticator

variable {session : Session} {config : Config} {trace effects : List Asked}
  {outcome : Except Failure Resolved} {authenticator : Authenticator} {rest : List Authenticator}

/-- An authenticator decides: the caller is told what its run on these settings comes to. -/
def Decides (authenticator : Authenticator) (config : Config) (effects : List Asked)
    (outcome : Except Failure Resolved) : Prop :=
  ∃ part found, (authenticator.resolve config).Runs part found ∧ effectsOf part = effects ∧
    report authenticator.name found = some outcome

/-- How a walk along a chain comes to what the caller is told. -/
inductive Selects : List Authenticator → Config → List Asked → Except Failure Resolved → Prop where
  | decides {authenticator : Authenticator} {rest : List Authenticator} {config : Config}
      {effects : List Asked} {outcome : Except Failure Resolved}
      (h : Decides authenticator config effects outcome) :
      Selects (authenticator :: rest) config effects outcome
  | declines {authenticator : Authenticator} {rest : List Authenticator} {config later : Config}
      {part effects : List Asked} {outcome : Except Failure Resolved}
      (h : (authenticator.resolve config).Runs part (later, .ok none))
      (hrest : Selects rest later effects outcome) :
      Selects (authenticator :: rest) config (effectsOf part ++ effects) outcome
  | exhausted {config : Config} : Selects [] config [] (.error (.error notConfigured))

theorem settled_eq_some {name : String} {found : Config × Verdict} {later : Session}
    (h : settled session name found = (later, some outcome)) :
    report name found = some outcome := by
  unfold settled at h
  split at h
  · next resolved hreport => rw [hreport, (Prod.mk.inj h).2]
  · exact (Prod.mk.inj h).2

theorem settled_eq_none {name : String} {found : Config × Verdict} {later : Session}
    (h : settled session name found = (later, none)) :
    found.2 = .ok none ∧ later = { session with config := found.1 } := by
  unfold settled at h
  split at h
  · cases (Prod.mk.inj h).2
  · obtain ⟨hlater, hreport⟩ := Prod.mk.inj h
    exact ⟨report_eq_none_iff.mp hreport, hlater.symm⟩

theorem selects_of_work {gate : Gate Session Resolved} {chain : List Authenticator}
    {later : Session}
    (hlast : ∀ session, gate.last session = .done (session, .error (.error notConfigured)))
    (h : (gate.work (chain.map askAuthenticator) session).Runs trace (later, outcome)) :
    Selects chain session.config (effectsOf trace) outcome := by
  induction chain generalizing session trace with
  | nil =>
      rw [List.map_nil, Gate.work, hlast] at h
      obtain ⟨rfl, heq⟩ := runs_done_iff.mp h
      obtain ⟨-, rfl⟩ := Prod.mk.inj heq
      exact .exhausted
  | cons authenticator rest ih =>
      obtain ⟨part, found, after, walk, rfl, hpart, hcloses, hend⟩ := runs_work_cons h
      have heffects : effectsOf (trying authenticator :: (part ++ (after ++ walk))) =
          effectsOf part ++ effectsOf walk := by
        rw [← List.nil_append (effectsOf walk), ← effectsOf_eq_nil_iff.mpr hcloses.quiet,
          ← effectsOf_append, ← effectsOf_append]
        rfl
      rw [heffects]
      rcases hend with ⟨next, told, hsettled, rfl, heq⟩ | ⟨next, hsettled, hwalk⟩
      · obtain ⟨-, rfl⟩ := Prod.mk.inj heq
        rw [show effectsOf [] = [] from rfl, List.append_nil]
        exact .decides ⟨part, found, hpart, rfl, settled_eq_some hsettled⟩
      · obtain ⟨hdeclines, rfl⟩ := settled_eq_none hsettled
        obtain ⟨changed, verdict⟩ := found
        obtain rfl := hdeclines
        exact .declines hpart (ih hwalk)

theorem Selects.of_declining (h : Selects (authenticator :: rest) config effects outcome)
    (hdeclines : ∀ part found, (authenticator.resolve config).Runs part found →
      part = [] ∧ found = (config, .ok none)) : Selects rest config effects outcome := by
  cases h with
  | decides h =>
      obtain ⟨part, found, hrun, -, hreport⟩ := h
      obtain ⟨-, rfl⟩ := hdeclines part found hrun
      cases hreport
  | declines hrun hrest =>
      obtain ⟨rfl, hfound⟩ := hdeclines _ _ hrun
      obtain ⟨rfl, -⟩ := Prod.mk.inj hfound
      exact hrest

theorem Selects.of_decisive (h : Selects (authenticator :: rest) config effects outcome)
    (hdecisive : ∀ part found, (authenticator.resolve config).Runs part found →
      Decisive found.2) : Decides authenticator config effects outcome := by
  cases h with
  | decides h => exact h
  | declines hrun hrest => exact absurd rfl (hdecisive _ _ hrun)

/-- The effects of an authenticator that decides are among what it may ask for. -/
theorem Decides.allowed {allowed : Query → Prop} (h : Decides authenticator config effects outcome)
    (hasks : (authenticator.resolve config).Asks allowed) :
    ∀ asked ∈ effects, allowed asked.query := by
  obtain ⟨part, found, hrun, rfl, -⟩ := h
  intro asked hasked
  exact hrun.asks hasks asked (mem_of_mem_effectsOf hasked)

theorem Selects.allowed {chain : List Authenticator} {allowed : Query → Prop}
    (h : Selects chain config effects outcome)
    (hasks : ∀ authenticator ∈ chain, ∀ config, (authenticator.resolve config).Asks allowed) :
    ∀ asked ∈ effects, allowed asked.query := by
  induction h with
  | decides h => exact h.allowed (hasks _ (List.mem_cons_self ..) _)
  | declines hrun hrest ih =>
      rw [List.forall_mem_cons] at hasks
      intro asked hasked
      rcases List.mem_append.mp hasked with hpart | hlater
      · exact hrun.asks (hasks.1 _) asked (mem_of_mem_effectsOf hpart)
      · exact ih hasks.2 asked hlater
  | exhausted => simp

/-- A walk leaves the calendar only for the lifetime that a token endpoint granted. -/
theorem Selects.leavesCalendar {chain : List Authenticator}
    (h : Selects chain config effects outcome)
    (hchain : ∀ authenticator ∈ chain, authenticator.LeavesByGrant)
    (hleaves : outcome = .error .outOfCalendar) : LeavesCalendar effects := by
  induction h with
  | decides h =>
      obtain ⟨part, found, hrun, rfl, hreport⟩ := h
      rw [hleaves] at hreport
      have hgrant := hchain _ (List.mem_cons_self ..) _ _ _ hrun (report_eq_outOfCalendar_iff.mp hreport)
      exact hgrant.effectsOf
  | declines hrun hrest ih =>
      rw [List.forall_mem_cons] at hchain
      exact (ih hchain.2 hleaves).mono fun asked h => List.mem_append_right _ h
  | exhausted => cases hleaves

/-! ### The standard chain -/

/-- What comes of a credential in the settings. -/
def directly (config : Config) (credential : Credential) : Except Failure Resolved :=
  match nonEmpty config.host with
  | none => .error (.error (hostRequired credential.setting))
  | some host =>
    match Signer.ofCredential credential.kind credential.text with
    | .error error => .error (.error error)
    | .ok signer => .ok ⟨Workspace.normalizeHost host, direct.name, signer⟩

theorem decides_direct {credential : Credential}
    (hcredential : directCredential? config = some credential)
    (h : Selects (direct :: rest) config effects outcome) :
    effects = [] ∧ outcome = directly config credential := by
  have hdecides : Decides direct config effects outcome := by
    apply h.of_decisive
    intro part found hrun
    obtain ⟨-, rfl⟩ := runs_direct Answers.bare hrun
    intro hdeclines
    rw [declines_direct] at hdeclines
    rw [hdeclines] at hcredential
    cases hcredential
  obtain ⟨part, found, hrun, rfl, hreport⟩ := hdecides
  obtain ⟨hquiet, rfl⟩ := runs_direct Answers.bare hrun
  refine ⟨effectsOf_eq_nil_iff.mpr hquiet, ?_⟩
  cases hhost : nonEmpty config.host with
  | none =>
      rw [outcome_direct_of_hostless hcredential hhost] at hreport
      simp only [report] at hreport
      simp only [directly, hhost]
      exact (Option.some.inj hreport).symm
  | some host =>
      have hkept : nonEmpty (if credential.kind = .basic then { config with password := none }
          else config).host = some host := by
        split <;> exact hhost
      rw [outcome_direct_of_host hcredential hhost] at hreport
      simp only [directly, hhost]
      cases hsigner : Signer.ofCredential credential.kind credential.text with
      | error error =>
          rw [hsigner] at hreport
          exact (Option.some.inj hreport).symm
      | ok signer =>
          rw [hsigner] at hreport
          change report direct.name (_, .ok (some signer)) = _ at hreport
          simp only [report, hkept] at hreport
          exact (Option.some.inj hreport).symm

/-- The run of the command that leaves the way free to the authenticators after it. -/
def lackingAzure : Asked :=
  ⟨.runCommand azureProgram azureArguments, .error .notInstalled⟩

/-- The command is not asked for, or it is but is not installed. -/
def PassesAzure (config : Config) (lead : List Asked) : Prop :=
  nonEmpty config.azure.resourceId = none ∧ lead = [] ∨
    (nonEmpty config.azure.resourceId).isSome ∧ (nonEmpty config.host).isSome ∧
      lead = [lackingAzure]

theorem selects_past_direct (hdirect : directCredential? config = none)
    (h : Selects (direct :: rest) config effects outcome) : Selects rest config effects outcome :=
  h.of_declining fun _ _ hrun => runs_direct_of_none hdirect hrun

theorem selects_past_principal (hprincipal : principal? config.azure = none)
    (h : Selects (azureClientSecret :: rest) config effects outcome) :
    Selects rest config effects outcome :=
  h.of_declining fun _ _ hrun => runs_azureClientSecret_of_none hprincipal hrun

section

variable [Wording]

/-- With a resource id and a host the command is run first, and once. -/
theorem selects_azureCli {resourceId host : String}
    (hresource : nonEmpty config.azure.resourceId = some resourceId)
    (hhost : nonEmpty config.host = some host)
    (h : Selects (azureCli :: rest) config effects outcome) :
    ∃ answer later, effects = ⟨.runCommand azureProgram azureArguments, answer⟩ :: later ∧
      ((answer ≠ .error .notInstalled ∧ later = [] ∧ Decides azureCli config effects outcome) ∨
        (answer = .error .notInstalled ∧ Selects rest config later outcome)) := by
  cases h with
  | decides h =>
      obtain ⟨part, found, hrun, heffects, hreport⟩ := h
      obtain ⟨-, answer, hpart, hanswer⟩ := runs_azureCli hresource hhost hrun
      rw [hpart] at heffects
      refine ⟨answer, [], heffects.symm, .inl ⟨?_, rfl, part, found, hrun, ?_, hreport⟩⟩
      · intro hlacks
        rw [report_eq_none_iff.mpr (hanswer.mpr hlacks)] at hreport
        cases hreport
      · rw [hpart, heffects]
  | declines hrun hrest =>
      obtain ⟨hconfig, answer, hpart, hanswer⟩ := runs_azureCli hresource hhost hrun
      dsimp only at hconfig
      rw [hconfig] at hrest
      rw [hpart]
      exact ⟨answer, _, rfl, .inr ⟨hanswer.mp rfl, hrest⟩⟩

theorem selects_past_azure {lead later : List Asked} (hlead : PassesAzure config lead)
    (h : Selects (azureCli :: rest) config (lead ++ later) outcome) :
    Selects rest config later outcome := by
  rcases hlead with ⟨hresource, rfl⟩ | ⟨hresource, hhost, rfl⟩
  · exact h.of_declining fun _ _ hrun => runs_azureCli_of_none hresource hrun
  · obtain ⟨resourceId, hresource⟩ := Option.isSome_iff_exists.mp hresource
    obtain ⟨host, hhost⟩ := Option.isSome_iff_exists.mp hhost
    obtain ⟨answer, others, heffects, hcases⟩ := selects_azureCli hresource hhost h
    obtain ⟨hfirst, rfl⟩ := List.cons.inj heffects
    simp only [lackingAzure, Asked.mk.injEq, heq_eq_eq, true_and] at hfirst
    rcases hcases with ⟨hother, -⟩ | ⟨-, hrest⟩
    · exact absurd hfirst.symm hother
    · exact hrest

/-- Of the two surfaces the one that the settings speak of decides. -/
theorem decides_google {serviceAccount : String}
    (haccount : nonEmpty config.google.serviceAccount = some serviceAccount)
    (h : Selects (googleAccounts :: googleWorkspace :: rest) config effects outcome) :
    Decides (google (Surface.ofConfig config)) config effects outcome := by
  cases hsurface : Surface.ofConfig config with
  | accounts =>
      apply h.of_decisive
      intro part found hrun
      exact (hrun.every (every_google hsurface haccount)).decisive
  | workspace =>
      have hother : Surface.ofConfig config ≠ .accounts := by simp [hsurface]
      have hworkspace := h.of_declining fun _ _ hrun => runs_google_of_none (.inr hother) hrun
      apply hworkspace.of_decisive
      intro part found hrun
      exact (hrun.every (every_google hsurface haccount)).decisive

theorem selects_past_google (haccount : nonEmpty config.google.serviceAccount = none)
    (h : Selects (googleAccounts :: googleWorkspace :: rest) config effects outcome) :
    Selects rest config effects outcome := by
  have hworkspace := h.of_declining fun _ _ hrun => runs_google_of_none (.inl haccount) hrun
  exact hworkspace.of_declining fun _ _ hrun => runs_google_of_none (.inl haccount) hrun

/-- The last authenticator decides, or nothing is configured. -/
theorem selects_profile (h : Selects [profile] config effects outcome) :
    ∃ part found, (profile.resolve config).Runs part found ∧ effectsOf part = effects ∧
      outcome = (report profile.name found).getD (.error (.error notConfigured)) := by
  cases h with
  | decides h =>
      obtain ⟨part, found, hrun, heffects, hreport⟩ := h
      exact ⟨part, found, hrun, heffects, by rw [hreport, Option.getD_some]⟩
  | declines hrun hrest =>
      cases hrest
      exact ⟨_, _, hrun, (List.append_nil _).symm, rfl⟩

/-- **Selection by the standard chain.** What is said of the effects of a walk is all of them: log
lines apart, nothing else is asked for. -/
structure Selection (config : Config) (effects : List Asked) (outcome : Except Failure Resolved) :
    Prop where
  /-- User name and password go first, and nothing is asked for. -/
  basic {username password : String} :
    nonEmpty config.username = some username → nonEmpty config.password = some password →
      effects = [] ∧
        outcome = directly config
          ⟨.basic, Base64.basicCredential username password, "basic_auth"⟩
  bearer {token : String} :
    nonEmpty config.username = none ∨ nonEmpty config.password = none →
    nonEmpty config.token = some token →
      effects = [] ∧ outcome = directly config ⟨.bearer, token, "token"⟩
  /-- A service principal decides by its token endpoint alone. -/
  principal {principal : Principal} :
    directCredential? config = none → principal? config.azure = some principal →
      Decides azureClientSecret config effects outcome ∧
        ∀ asked ∈ effects, principal.Allows asked.query
  hostless {resourceId : String} :
    directCredential? config = none → principal? config.azure = none →
    nonEmpty config.azure.resourceId = some resourceId → nonEmpty config.host = none →
      effects = [] ∧ outcome = .error (.error (hostRequired "azure_cli"))
  /-- The command is run once, before all else, and decides if it is installed. -/
  command {resourceId host : String} :
    directCredential? config = none → principal? config.azure = none →
    nonEmpty config.azure.resourceId = some resourceId → nonEmpty config.host = some host →
      ∃ answer later, effects = ⟨.runCommand azureProgram azureArguments, answer⟩ :: later ∧
        (∀ asked ∈ later, ¬ asked.query.IsCommand) ∧
        (answer ≠ .error .notInstalled → later = [] ∧ Decides azureCli config effects outcome)
  /-- One of the two surfaces decides, by the file of its key and a token endpoint. -/
  google {serviceAccount : String} {lead later : List Asked} :
    directCredential? config = none → principal? config.azure = none → PassesAzure config lead →
    nonEmpty config.google.serviceAccount = some serviceAccount → effects = lead ++ later →
      ∃ surface,
        (surface = .accounts ↔
          Workspace.isAccountsHost ((nonEmpty config.host).getD "") = true ∨
            (nonEmpty config.accountId).isSome) ∧
        Decides (google surface) config later outcome ∧
        ∀ asked ∈ later, AllowsGoogle config asked.query
  /-- Otherwise the profile decides; if there is no such file, nothing is configured. -/
  profile {lead later : List Asked} :
    directCredential? config = none → principal? config.azure = none → PassesAzure config lead →
    nonEmpty config.google.serviceAccount = none → effects = lead ++ later →
      (∃ part found, (profile.resolve config).Runs part found ∧ effectsOf part = later ∧
        outcome = (report profile.name found).getD (.error (.error notConfigured))) ∧
      ∀ asked ∈ later, AllowsProfile config asked.query
  /-- The caller is told a result or an error, or an endpoint's grant leaves the calendar. -/
  calendar : outcome = .error .outOfCalendar → LeavesCalendar effects

omit [Wording] in
theorem surface_eq_accounts_iff :
    Surface.ofConfig config = .accounts ↔
      Workspace.isAccountsHost ((nonEmpty config.host).getD "") = true ∨
        (nonEmpty config.accountId).isSome := by
  unfold Surface.ofConfig
  dsimp only
  rw [← Bool.or_eq_true]
  split
  · next h => simp [h]
  · next h => simp [h]

omit [Wording] in
theorem directCredential?_of_pair {username password : String}
    (husername : nonEmpty config.username = some username)
    (hpassword : nonEmpty config.password = some password) :
    directCredential? config =
      some ⟨.basic, Base64.basicCredential username password, "basic_auth"⟩ := by
  simp only [directCredential?, husername, hpassword]

omit [Wording] in
theorem directCredential?_of_token {token : String}
    (hpair : nonEmpty config.username = none ∨ nonEmpty config.password = none)
    (htoken : nonEmpty config.token = some token) :
    directCredential? config = some ⟨.bearer, token, "token"⟩ := by
  unfold directCredential?
  rcases hpair with hnone | hnone
  · simp [hnone, htoken]
  · cases husername : nonEmpty config.username <;> simp [hnone, htoken]

/-- The authenticators after the command line tool run no command. -/
theorem no_command_after_azureCli {later : List Asked}
    (h : Selects [googleAccounts, googleWorkspace, Authenticator.profile] config later outcome) :
    ∀ asked ∈ later, ¬ asked.query.IsCommand := by
  have hgoogle (surface : Surface) (config : Config) :
      ((google surface).resolve config).Asks fun query => ¬ query.IsCommand := by
    apply (asks_google surface config).mono
    intro query hquery hcommand
    cases query <;> first | exact hquery | exact hcommand
  have hprofile (config : Config) :
      (Authenticator.profile.resolve config).Asks fun query => ¬ query.IsCommand := by
    apply (asks_profile config).mono
    intro query hquery hcommand
    cases query <;> first | exact hquery | exact hcommand
  have hchain : ∀ authenticator ∈ [googleAccounts, googleWorkspace, Authenticator.profile],
      ∀ config, (authenticator.resolve config).Asks fun query => ¬ query.IsCommand := by
    intro authenticator hmem
    simp only [List.mem_cons, List.not_mem_nil, or_false] at hmem
    rcases hmem with rfl | rfl | rfl
    · exact hgoogle .accounts
    · exact hgoogle .workspace
    · exact hprofile
  exact h.allowed hchain

theorem selection_of_selects (h : Selects standardChain config effects outcome) :
    Selection config effects outcome := by
  have hcli (hdirect : directCredential? config = none)
      (hprincipal : principal? config.azure = none) :
      Selects [azureCli, googleAccounts, googleWorkspace, profile] config effects outcome :=
    selects_past_principal hprincipal (selects_past_direct hdirect h)
  constructor
  case basic =>
    intro username password husername hpassword
    exact decides_direct (directCredential?_of_pair husername hpassword) h
  case bearer =>
    intro token hpair htoken
    exact decides_direct (directCredential?_of_token hpair htoken) h
  case principal =>
    intro principal hdirect hprincipal
    have hdecides : Decides azureClientSecret config effects outcome := by
      apply (selects_past_direct hdirect h).of_decisive
      intro part found hrun
      exact (hrun.every (every_azureClientSecret hprincipal)).decisive
    exact ⟨hdecides, hdecides.allowed (asks_azureClientSecret hprincipal)⟩
  case hostless =>
    intro resourceId hdirect hprincipal hresource hhost
    have hdecides : Decides azureCli config effects outcome := by
      apply (hcli hdirect hprincipal).of_decisive
      intro part found hrun
      rw [(runs_azureCli_of_hostless hresource hhost hrun).2]
      exact decisive_error _
    obtain ⟨part, found, hrun, rfl, hreport⟩ := hdecides
    obtain ⟨rfl, rfl⟩ := runs_azureCli_of_hostless hresource hhost hrun
    exact ⟨rfl, (Option.some.inj hreport).symm⟩
  case command =>
    intro resourceId host hdirect hprincipal hresource hhost
    obtain ⟨answer, later, heffects, hcases⟩ :=
      selects_azureCli hresource hhost (hcli hdirect hprincipal)
    refine ⟨answer, later, heffects, ?_, ?_⟩
    · rcases hcases with ⟨-, rfl, -⟩ | ⟨-, hrest⟩
      · simp
      · exact no_command_after_azureCli hrest
    · intro hinstalled
      rcases hcases with ⟨-, hlater, hdecides⟩ | ⟨hlacks, -⟩
      · exact ⟨hlater, hdecides⟩
      · exact absurd hlacks hinstalled
  case google =>
    rintro serviceAccount lead later hdirect hprincipal hlead haccount rfl
    have hdecides := decides_google haccount (selects_past_azure hlead (hcli hdirect hprincipal))
    exact ⟨_, surface_eq_accounts_iff, hdecides, hdecides.allowed (asks_google _ config)⟩
  case profile =>
    rintro lead later hdirect hprincipal hlead haccount rfl
    have hprofile := selects_past_google haccount
      (selects_past_azure hlead (hcli hdirect hprincipal))
    obtain ⟨part, found, hrun, rfl, houtcome⟩ := selects_profile hprofile
    refine ⟨⟨part, found, hrun, rfl, houtcome⟩, ?_⟩
    intro asked hasked
    exact hrun.asks (asks_profile config) asked (mem_of_mem_effectsOf hasked)
  case calendar =>
    exact h.leavesCalendar fun _ hmem => (exact_of_mem_standardChain hmem).leavesByGrant

/-- **One walk of the standard chain.** -/
theorem selection_of_runs {result : Session × Except Failure Resolved}
    (hchain : session.chain = standardChain) (hopen : session.resolved = none)
    (h : session.authenticate.Runs trace result) :
    Selection session.config (effectsOf trace) result.2 := by
  rw [runs_authenticate_iff, hopen, hchain] at h
  exact selection_of_selects (selects_of_work (fun _ => rfl) h)

end

/-- A workspace with a service account that has no key. -/
def keylessAccount : Session :=
  start
    { host := some "h"
      azure := { resourceId := some "r" }
      google := { serviceAccount := some "a@b" } }
    standardChain

theorem selection_of_runs_keylessAccount :
    ∃ answer later, effectsOf (keylessAccount.authenticate.askAll Answers.bare) =
        ⟨.runCommand azureProgram azureArguments, answer⟩ :: later ∧
      ∀ asked ∈ later, ¬ asked.query.IsCommand := by
  have hselection :=
    selection_of_runs rfl rfl (runs_askAll Answers.bare keylessAccount.authenticate)
  obtain ⟨answer, later, heffects, hlater, -⟩ := hselection.command rfl rfl rfl rfl
  exact ⟨answer, later, heffects, hlater⟩

/-! ### A lifetime without an end -/

/-- A service principal whose login endpoint is at hand. -/
def localPrincipal : Session :=
  start
    { host := some "h"
      azure := {
        clientId := some "c"
        clientSecret := some "s"
        tenantId := some "t"
        loginEndpoint := some "http://[::1]" } }
    standardChain

/-- A token endpoint that grants a token for as long as a number can say. -/
def everlasting : Answers
  | .exchange _ =>
    .ok {
      status := 200
      body := Bytes.ofString
        "\x7b\"access_token\": \"t\", \"expires_in\": 9223372036854775807\x7d" }
  | query => Answers.bare query

def leavesCalendar (outcome : Except Failure Resolved) : Bool :=
  match outcome with
  | .error .outOfCalendar => true
  | _ => false

theorem exists_neither_ok_nor_error :
    directCredential? localPrincipal.config = none ∧
      (principal? localPrincipal.config.azure).isSome ∧
      ∃ trace result, localPrincipal.authenticate.Runs trace result ∧
        (∀ resolved, result.2 ≠ .ok resolved) ∧ ∀ error, result.2 ≠ .error (.error error) := by
  refine ⟨rfl, rfl, _, _, runs_askAll everlasting _, ?_⟩
  have hleaves : leavesCalendar (localPrincipal.authenticate.answerAll everlasting).2 = true := by
    decide +kernel
  constructor
  · intro resolved h
    rw [h] at hleaves
    cases hleaves
  · intro error h
    rw [h] at hleaves
    cases hleaves

end Session

end ControlPlane
