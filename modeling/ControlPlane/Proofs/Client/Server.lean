import ControlPlane.Proofs.Client.Attempts
import ControlPlane.Surroundings.Wording

/-!
# Which server is called

The server that a path is sent to is that of the host alone, for every host but those that have only
slashes after their scheme. For these the joined text has no authority of its own, and the reader of
URLs takes the first segment of the path for one.
-/

namespace ControlPlane.Client

open Program Workspace

section

variable [Wording]

/-- Every send that resolves to a host makes its attempts to the server of the host. -/
def SendsToServerOf (host : String) : Prop :=
  ∀ {α : Type} (client later : Client) (method : Method) (path : String)
    (body : Option Json.Value) (decoder : Json.Decoder α) (trace : List Asked)
    (answer : Except Failure α),
    client.session.AttemptFree →
    (client.send method path body decoder).Runs trace (later, answer) →
    later.session.resolved.map Resolved.host = some host →
    ∀ request ∈ attemptsOf trace, serverOf host = .ok request.url.server

variable {host : String}

theorem sendsToServerOf (hhost : host ≠ "") (hnames : namesServer (normalizeHost host) = true) :
    SendsToServerOf (normalizeHost host) := by
  intro α client later method path body decoder trace answer hfree h hlater request hrequest
  obtain ⟨resolved, hresolved, hserver⟩ := (sent_of_runs hfree h).attempted request hrequest
  rw [hresolved] at hlater
  rw [Option.some.inj hlater, server_formatUrl hhost hnames] at hserver
  exact hserver

/-- **A path does not choose the server of a host that names one.** -/
theorem server_of_host_iff (hhost : host ≠ "") :
    (OneServer (normalizeHost host) ↔ namesServer (normalizeHost host) = true) ∧
      (namesServer (normalizeHost host) = true → SendsToServerOf (normalizeHost host)) :=
  ⟨oneServer_iff hhost, sendsToServerOf hhost⟩

end

/-- A host that has only slashes after its scheme leaves the server to the path. -/
theorem not_oneServer_slashes : ¬ OneServer (normalizeHost "https://") := by
  rw [oneServer_iff (by decide)]
  decide

/-- Surroundings that grant every call. -/
def granting : Answers
  | .attempt _ => .ok { status := 200 }
  | query => Answers.bare query

/-- A send whose path tries to name a server of its own. -/
def strayingSend : Program (Client × Except Failure Unit) :=
  (standard { host := some "[::1]", token := some "t" }).send .get "@[::2]/x" none Json.Decoder.unit

theorem server_of_host_iff_straying :
    OneServer (normalizeHost "[::1]") ∧
      (attemptsOf (strayingSend.askAll granting)).length = 1 ∧
      ∀ request ∈ attemptsOf (strayingSend.askAll granting),
        serverOf (normalizeHost "[::1]") = .ok request.url.server := by
  have hnames : namesServer (normalizeHost "[::1]") = true := by decide
  obtain ⟨hone, hsends⟩ := server_of_host_iff (show "[::1]" ≠ "" by decide)
  refine ⟨hone.mpr hnames, by decide +kernel, ?_⟩
  exact hsends hnames _ _ _ _ _ _ _ _ (Session.attemptFree_start _)
    (runs_askAll granting strayingSend) rfl

end ControlPlane.Client
