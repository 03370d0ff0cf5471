import ControlPlane.Retry

/-!
# Bad requests that may pass

Of an answer that is no success an error keeps one text: what a structured body says went wrong, or
else the body as it is. A bad request may pass if that text mentions one of the transient messages.
So a body that mentions one is tried again unless it is structured and says something else; the code
of an error, for one, is not looked at.
-/

namespace ControlPlane

namespace Error

variable {octets : Bytes} {code : Nat}

/-- A text that holds one of the transient messages. -/
def Mentions (text : String) : Prop :=
  ∃ mark ∈ transientMessages, ∃ before after, text.toList = before ++ mark.toList ++ after

theorem mentionsTransient_iff {text : String} : mentionsTransient text = true ↔ Mentions text := by
  simp only [mentionsTransient, List.any_eq_true, Text.occursIn_iff, Mentions]

/-- What a structured body says went wrong. -/
def explanation? (octets : Bytes) : Option String :=
  ((Body.schema.decoder {}).decode? octets).bind fun body => body.message <|> body.detail

/-- The text that an error keeps of a body. -/
def keptText (octets : Bytes) : String :=
  (explanation? octets).getD (Bytes.lossy octets)

/-- The text of an answer that an error keeps. -/
def text? : Error → Option String
  | .status _ body => some body
  | .api _ _ message => some message
  | _ => none

theorem status?_ofResponse (code : Nat) (octets : Bytes) :
    (ofResponse code octets).status? = some code := by
  unfold ofResponse
  split
  · split <;> rfl
  · rfl

theorem text?_ofResponse (code : Nat) (octets : Bytes) :
    (ofResponse code octets).text? = some (keptText octets) := by
  unfold ofResponse keptText explanation?
  cases (Body.schema.decoder {}).decode? octets with
  | none => rfl
  | some body =>
      dsimp only [Option.bind_some]
      cases body.message <|> body.detail <;> rfl

/-- Whether an error with a status and a text may pass goes by these. -/
theorem isRetryable_eq_isTransient {error : Error} {text : String}
    (hstatus : error.status? = some code) (htext : error.text? = some text) :
    error.isRetryable = isTransient code text := by
  cases error with
  | status | api =>
      obtain rfl := Option.some.inj hstatus
      obtain rfl := Option.some.inj htext
      rfl
  | _ => cases hstatus

theorem isRetryable_ofResponse (code : Nat) (octets : Bytes) :
    (ofResponse code octets).isRetryable = isTransient code (keptText octets) :=
  isRetryable_eq_isTransient (status?_ofResponse code octets) (text?_ofResponse code octets)

theorem isRetryable_badRequest : (ofResponse 400 octets).isRetryable = true ↔
    Mentions (keptText octets) := by
  rw [isRetryable_ofResponse, ← mentionsTransient_iff]
  simp [isTransient, isRetryableStatus]

theorem mentions_keptText_iff (h : Mentions (Bytes.lossy octets)) :
    Mentions (keptText octets) ↔ ∀ text, explanation? octets = some text → Mentions text := by
  unfold keptText
  cases explanation? octets with
  | none => simpa using h
  | some text => simp

end Error

open Error

theorem RetryPolicy.classify_response {policy : RetryPolicy} (hveto : policy.veto = none)
    (method : Method) {response : Response} (h : response.isSuccess = false) :
    policy.classify method (judge (.ok response)) = .retry ↔
      (ofResponse response.status response.body).isRetryable = true := by
  rw [judge, h, if_neg Bool.false_ne_true, classify, isVetoed, hveto]
  cases (ofResponse response.status response.body).isRetryable <;> simp

/-- **Bad requests that mention a transient message.** They are tried again exactly if the body is
not structured, or says in its message or detail, whichever counts, that they may pass. -/
theorem isRetryable_iff_of_mentions {octets : Bytes} (h : Mentions (Bytes.lossy octets)) :
    ((ofResponse 400 octets).isRetryable = true ↔
        ∀ text, explanation? octets = some text → Mentions text) ∧
      ∀ (policy : RetryPolicy) (method : Method) (headers : HeaderMap), policy.veto = none →
        (policy.classify method (judge (.ok ⟨400, headers, octets⟩)) = .retry ↔
          ∀ text, explanation? octets = some text → Mentions text) := by
  have hretryable : (ofResponse 400 octets).isRetryable = true ↔
      ∀ text, explanation? octets = some text → Mentions text :=
    isRetryable_badRequest.trans (mentions_keptText_iff h)
  refine ⟨hretryable, fun policy method headers hveto => ?_⟩
  exact (RetryPolicy.classify_response hveto method rfl).trans hretryable

/-- A structured error that mentions a transient message as its code. -/
def unreadyCluster : Bytes :=
  Bytes.ofString "\x7b\"error_code\":\"ClusterNotReadyException\",\"message\":\"starting\"\x7d"

theorem explanation?_unreadyCluster : explanation? unreadyCluster = some "starting" := by
  decide +kernel

theorem mentions_unreadyCluster : Mentions (Bytes.lossy unreadyCluster) := by
  rw [← mentionsTransient_iff]
  decide +kernel

theorem isRetryable_iff_of_mentions_unreadyCluster :
    Mentions (Bytes.lossy unreadyCluster) ∧ ((ofResponse 400 unreadyCluster).isRetryable = true ↔
      ∀ text, explanation? unreadyCluster = some text → Mentions text) :=
  ⟨mentions_unreadyCluster, (isRetryable_iff_of_mentions mentions_unreadyCluster).1⟩

/-- A code that mentions a transient message is not enough. -/
theorem exists_mentions_not_retryable :
    ¬ ∀ octets, Mentions (Bytes.lossy octets) → (ofResponse 400 octets).isRetryable = true := by
  intro h
  have hmentions := isRetryable_badRequest.mp (h unreadyCluster mentions_unreadyCluster)
  rw [keptText, explanation?_unreadyCluster, Option.getD_some, ← mentionsTransient_iff] at hmentions
  revert hmentions
  decide

end ControlPlane
