import ControlPlane.Proofs.Client.Attempts
import ControlPlane.Proofs.Header
import ControlPlane.Proofs.Signer.Freshness
import ControlPlane.Proofs.Signer.Refresh
import ControlPlane.Proofs.Signer.SingleFlight
import Mathlib.Data.List.Forall2

/-!
# What signing sets

A signature is a credential, the headers that go with it, and the headers of the signer itself. They
are set in this order, so of two that have one name, in whatever case, the later one stays. Nothing
else of a request changes, and a request that is signed again stays as it is.
-/

namespace ControlPlane

open Program

/-- Headers made of texts, one of each. -/
abbrev FixedHeader.Made : List (String × String) → List FixedHeader → Prop :=
  List.Forall₂ fun text header => ofTexts text.1 text.2 = .ok header

theorem FixedHeader.made_of_mapM {texts : List (String × String)} {fixed : List FixedHeader}
    (h : texts.mapM (fun text => ofTexts text.1 text.2) = .ok fixed) : Made texts fixed := by
  induction texts generalizing fixed with
  | nil =>
      obtain rfl := Except.ok.inj h
      exact .nil
  | cons text texts ih =>
      rw [List.mapM_cons] at h
      cases hheader : ofTexts text.1 text.2 with
      | error error =>
          rw [hheader] at h
          cases h
      | ok header =>
          cases hrest : texts.mapM fun text => ofTexts text.1 text.2 with
          | error error =>
              rw [hheader, hrest] at h
              cases h
          | ok rest =>
              rw [hheader, hrest] at h
              obtain rfl := Except.ok.inj h
              exact .cons hheader (ih hrest)

/-- What a signer sets, as texts. -/
structure Signature where
  scheme : String
  credential : String
  /-- Headers that go with the credential. -/
  extra : List (String × String) := []
  /-- Headers of the signer, whatever the credential. -/
  own : List (String × String) := []

namespace Signature

variable {signature : Signature} {texts : List (String × String)} {fixed : List FixedHeader}
  {name : HeaderName} {before after : HeaderMap}

/-- The last text for a name. -/
def lastText? (texts : List (String × String)) (name : HeaderName) : Option String :=
  (texts.filter fun text => HeaderName.ofText? text.1 = some name).getLast?.map Prod.snd

/-- The text that a name is set to. -/
def text? (signature : Signature) (name : HeaderName) : Option String :=
  (lastText? signature.own name).or <| (lastText? signature.extra name).or <|
    if name = .authorization then some (signature.scheme ++ " " ++ signature.credential) else none

/-- Headers after signing: a name that is set has the one value that it is set to, which is
sensitive, and any other name has the values that it had. -/
structure Sets (signature : Signature) (before after : HeaderMap) : Prop where
  set {name : HeaderName} {text : String} (h : signature.text? name = some text) :
    after.values name = [⟨text, true⟩]
  kept {name : HeaderName} (h : signature.text? name = none) :
    after.values name = before.values name

theorem lastText?_cons (text : String × String) (texts : List (String × String))
    (name : HeaderName) :
    lastText? (text :: texts) name = (lastText? texts name).or
      (if HeaderName.ofText? text.1 = some name then some text.2 else none) := by
  rw [← List.singleton_append, lastText?, List.filter_append, List.getLast?_append, Option.map_or]
  by_cases h : HeaderName.ofText? text.1 = some name <;> simp [h, lastText?]

/-- What headers say that were made of texts. -/
theorem lastValue?_of_made (h : FixedHeader.Made texts fixed) (name : HeaderName) :
    FixedHeader.lastValue? fixed name = (lastText? texts name).map (⟨·, true⟩) := by
  induction h with
  | nil => rfl
  | @cons text header texts fixed hheader _ ih =>
      obtain ⟨hname, hvalue⟩ := FixedHeader.eq_of_ofTexts hheader
      rw [← List.singleton_append, FixedHeader.lastValue?_append,
        FixedHeader.lastValue?_singleton, ih, lastText?_cons, Option.map_or, hname, hvalue]
      by_cases hsame : header.1 = name <;> simp [hsame]

/-- The header that carries the credential. -/
def authorization (signature : Signature) : FixedHeader :=
  (.authorization, ⟨signature.scheme ++ " " ++ signature.credential, true⟩)

/-- **The order of a signature**: the credential, what goes with it, and the signer's own. -/
theorem sets_insertAll (signature : Signature) {extra own : List FixedHeader}
    (hextra : FixedHeader.Made signature.extra extra) (hown : FixedHeader.Made signature.own own)
    (before : HeaderMap) :
    signature.Sets before
      (FixedHeader.insertAll before (signature.authorization :: extra ++ own)) := by
  have hlast (name : HeaderName) :
      FixedHeader.lastValue? (signature.authorization :: extra ++ own) name =
        (signature.text? name).map (⟨·, true⟩) := by
    rw [FixedHeader.lastValue?_append, ← List.singleton_append, FixedHeader.lastValue?_append,
      FixedHeader.lastValue?_singleton, lastValue?_of_made hextra, lastValue?_of_made hown, text?,
      Option.map_or, Option.map_or]
    by_cases hname : name = .authorization
    · simp [hname, authorization]
    · simp [hname, Ne.symm hname, authorization]
  constructor
  · intro name text htext
    rw [FixedHeader.values_insertAll, hlast, htext]
    rfl
  · intro name htext
    rw [FixedHeader.values_insertAll, hlast, htext]
    rfl

end Signature

/-! ### Signers -/

namespace TokenSigner

variable {signer later : TokenSigner} {token : Token} {headers : HeaderMap}
  {texts : List (String × String)} {own fixed : List FixedHeader} {trace : List Asked}

theorem setTexts_of_made (h : FixedHeader.Made texts own) (headers : HeaderMap) :
    setTexts headers texts = ⟨FixedHeader.insertAll headers own, .ok ()⟩ := by
  induction h generalizing headers with
  | nil => rfl
  | cons hheader _ ih =>
      rw [setTexts, hheader]
      exact ih _

/-- A token has headers if each of its texts can be one. -/
theorem made_of_tokenHeaders (h : tokenHeaders token = .ok own) :
    FixedHeader.sensitive ("Bearer " ++ token.text) = .ok ⟨"Bearer " ++ token.text, true⟩ ∧
      ∃ extra, FixedHeader.Made token.headers extra ∧
        own = (.authorization, ⟨"Bearer " ++ token.text, true⟩) :: extra := by
  unfold tokenHeaders at h
  cases hvalue : FixedHeader.sensitive ("Bearer " ++ token.text) with
  | error error =>
      rw [hvalue] at h
      cases h
  | ok value =>
      obtain rfl := FixedHeader.eq_of_sensitive hvalue
      cases hextra : token.headers.mapM fun header => FixedHeader.ofTexts header.1 header.2 with
      | error error =>
          rw [hvalue, hextra] at h
          cases h
      | ok extra =>
          rw [hvalue, hextra] at h
          exact ⟨rfl, extra, FixedHeader.made_of_mapM hextra, (Except.ok.inj h).symm⟩

/-- A token that has headers sets them in every request. -/
theorem setToken_of_tokenHeaders (h : tokenHeaders token = .ok own) (headers : HeaderMap)
    (fixed : List FixedHeader) :
    setToken headers token fixed = ⟨FixedHeader.insertAll headers (own ++ fixed), .ok ()⟩ := by
  obtain ⟨hvalue, extra, hextra, rfl⟩ := made_of_tokenHeaders h
  rw [setToken, hvalue]
  dsimp only
  rw [setTexts_of_made hextra, insertAll_append]
  rfl

/-- Adds headers that go with every token, in order. -/
def withHeaders (signer : TokenSigner) (texts : List (String × String)) :
    Except Error TokenSigner :=
  texts.foldlM (fun signer text => signer.withHeader text.1 text.2) signer

theorem made_of_withHeaders (h : signer.withHeaders texts = .ok later) :
    ∃ more, FixedHeader.Made texts more ∧
      later = { signer with headers := signer.headers ++ more } := by
  unfold withHeaders at h
  induction texts generalizing signer with
  | nil =>
      obtain rfl := Except.ok.inj h
      exact ⟨[], .nil, by rw [List.append_nil]⟩
  | cons text texts ih =>
      rw [List.foldlM_cons] at h
      unfold withHeader at h
      cases hheader : FixedHeader.ofTexts text.1 text.2 with
      | error error =>
          rw [hheader] at h
          cases h
      | ok header =>
          rw [hheader] at h
          obtain ⟨more, hmore, rfl⟩ := ih h
          exact ⟨header :: more, .cons hheader hmore, by simp⟩

end TokenSigner

namespace Signer

variable {signer later : Signer} {signature : Signature} {headers : HeaderMap} {signed : Signed}
  {fixed : List FixedHeader} {trace : List Asked}

/-- A signer made of the texts of a signature. -/
inductive Carries : Signer → Signature → Prop where
  | fixed {kind : AuthKind} {scheme credential : String} {texts : List (String × String)}
      {header : FixedHeader} {own : List FixedHeader}
      (hheader : authorizationHeader scheme credential = .ok header)
      (hown : FixedHeader.Made texts own) :
      Carries ⟨kind, .fixed (header :: own)⟩ { scheme, credential, own := texts }
  | refreshing {kind : AuthKind} {source : TokenSource} {token : Token}
      {texts : List (String × String)} {inner : TokenSigner}
      (hinner : ({ source, cached := token } : TokenSigner).withHeaders texts = .ok inner) :
      Carries ⟨kind, .refreshing inner⟩ ⟨"Bearer", token.text, token.headers, texts⟩

/-- The headers that a signer sets until it fetches another token. -/
def headers? (signer : Signer) : Except Error (List FixedHeader) :=
  match signer.rule with
  | .fixed fixed => .ok fixed
  | .refreshing inner => (TokenSigner.tokenHeaders inner.cached).map (· ++ inner.headers)

theorem headers?_refreshing_iff {kind : AuthKind} {inner : TokenSigner} :
    headers? ⟨kind, .refreshing inner⟩ = .ok fixed ↔
      ∃ own, TokenSigner.tokenHeaders inner.cached = .ok own ∧ fixed = own ++ inner.headers := by
  cases hown : TokenSigner.tokenHeaders inner.cached <;> simp [headers?, hown, Except.map, eq_comm]

/-- No token that is kept has expired when the clock is read. -/
def IsFresh (signer : Signer) (trace : List Asked) : Prop :=
  ∀ inner, signer.rule = .refreshing inner →
    ∀ now, ⟨.wallClock, now⟩ ∈ trace → inner.cached.isExpired now = false

theorem Carries.sets (h : signer.Carries signature) (hfixed : signer.headers? = .ok fixed)
    (before : HeaderMap) : signature.Sets before (FixedHeader.insertAll before fixed) := by
  cases h with
  | @fixed kind scheme credential texts header own hheader hown =>
      obtain rfl := Except.ok.inj hfixed
      unfold authorizationHeader at hheader
      cases hvalue : FixedHeader.sensitive (scheme ++ " " ++ credential) with
      | error error =>
          rw [hvalue] at hheader
          cases hheader
      | ok value =>
          rw [hvalue] at hheader
          obtain rfl := Except.ok.inj hheader
          rw [FixedHeader.eq_of_sensitive hvalue]
          exact Signature.sets_insertAll ⟨scheme, credential, [], texts⟩ .nil hown before
  | @refreshing kind source token texts inner hinner =>
      obtain ⟨own, hown, rfl⟩ := TokenSigner.made_of_withHeaders hinner
      obtain ⟨first, hfirst, rfl⟩ := headers?_refreshing_iff.mp hfixed
      obtain ⟨-, extra, hextra, rfl⟩ := TokenSigner.made_of_tokenHeaders hfirst
      exact Signature.sets_insertAll ⟨"Bearer", token.text, token.headers, texts⟩ hextra hown before

/-- A fresh signer stays as it is, and asks for nothing but the time. -/
theorem runs_sign_of_fresh (h : (signer.sign headers).Runs trace (later, signed))
    (hfresh : signer.IsFresh trace) :
    later = signer ∧ attemptsOf trace = [] ∧
      (signed.outcome = .ok () → ∃ fixed, signer.headers? = .ok fixed) ∧
      ∀ fixed, signer.headers? = .ok fixed →
        signed = ⟨FixedHeader.insertAll headers fixed, .ok ()⟩ := by
  obtain ⟨kind, rule⟩ := signer
  cases rule with
  | fixed own =>
      obtain ⟨rfl, heq⟩ := runs_done_iff.mp h
      obtain ⟨rfl, rfl⟩ := Prod.mk.inj heq
      refine ⟨rfl, rfl, fun _ => ⟨own, rfl⟩, ?_⟩
      rintro fixed ⟨⟩
      rfl
  | refreshing inner =>
      obtain ⟨signing, ⟨kept, found⟩, last, rfl, hsign, hdone⟩ := runs_bind_iff.mp h
      obtain ⟨rfl, heq⟩ := runs_done_iff.mp hdone
      obtain ⟨rfl, rfl⟩ := Prod.mk.inj heq
      rw [List.append_nil] at hfresh ⊢
      obtain ⟨looking, ⟨left, token⟩, rest, rfl, hlook, hrest⟩ := runs_bind_iff.mp hsign
      obtain ⟨rfl, heq⟩ := runs_done_iff.mp hrest
      obtain ⟨rfl, rfl⟩ := Prod.mk.inj heq
      rw [List.append_nil] at hfresh ⊢
      obtain ⟨⟨now, rfl⟩, rfl, rfl⟩ := TokenSigner.runs_freshToken_of_fresh hlook (hfresh inner rfl)
      refine ⟨rfl, rfl, fun hok => ?_, fun fixed hfixed => ?_⟩
      · obtain ⟨own, hown, -⟩ := TokenSigner.setToken_of_ok hok
        exact ⟨_, headers?_refreshing_iff.mpr ⟨own, hown, rfl⟩⟩
      · obtain ⟨own, hown, rfl⟩ := headers?_refreshing_iff.mp hfixed
        exact TokenSigner.setToken_of_tokenHeaders hown headers _

/-- **What signing sets.** As long as the kept token lasts, signing that succeeds sets exactly the
signature, and signing once more changes nothing; every attempt of a call is of its request with
these headers. -/
theorem sign_sets_signature (hcarries : signer.Carries signature) :
    (∀ headers trace later signed, (signer.sign headers).Runs trace (later, signed) →
      signer.IsFresh trace → signed.outcome = .ok () →
        later = signer ∧ signature.Sets headers signed.headers ∧
          ∀ more last again, (later.sign signed.headers).Runs more (last, again) →
            later.IsFresh more → again = signed) ∧
      ∀ client resolved request trace left answer, resolved.signer = signer →
        (Client.signAndExchange client resolved request).Runs trace (left, answer) →
          signer.IsFresh trace → ∀ sent ∈ attemptsOf trace,
            sent.method = request.method ∧ sent.url = request.url ∧ sent.body = request.body ∧
              signature.Sets request.headers sent.headers := by
  constructor
  · intro headers trace later signed hrun hfresh hok
    obtain ⟨rfl, -, hsucceeds, hsigned⟩ := runs_sign_of_fresh hrun hfresh
    obtain ⟨fixed, hfixed⟩ := hsucceeds hok
    obtain rfl := hsigned fixed hfixed
    refine ⟨rfl, hcarries.sets hfixed headers, fun more last again hagain hlast => ?_⟩
    obtain ⟨-, -, -, hagain⟩ := runs_sign_of_fresh hagain hlast
    rw [hagain fixed hfixed, FixedHeader.insertAll_insertAll]
  · rintro client resolved request trace left answer rfl hrun hfresh sent hsent
    obtain ⟨signing, ⟨later, signed⟩, rest, rfl, hsign, hrest⟩ := runs_bind_iff.mp hrun
    have hfirst : resolved.signer.IsFresh signing := fun inner hinner now hnow =>
      hfresh inner hinner now (List.mem_append_left _ hnow)
    obtain ⟨rfl, hnone, hsucceeds, hsigned⟩ := runs_sign_of_fresh hsign hfirst
    rw [attemptsOf_append, hnone, List.nil_append] at hsent
    cases hok : signed.outcome with
    | error failure =>
        dsimp only at hrest
        rw [hok] at hrest
        obtain ⟨rfl, -⟩ := runs_done_iff.mp hrest
        cases hsent
    | ok _ =>
        obtain ⟨fixed, hfixed⟩ := hsucceeds hok
        obtain rfl := hsigned fixed hfixed
        obtain ⟨attempts, reply, last, rfl, hattempts, hdone⟩ := runs_bind_iff.mp hrest
        obtain ⟨rfl, -⟩ := runs_done_iff.mp hdone
        rw [List.append_nil] at hsent
        obtain rfl := Client.eq_of_mem_attemptsOf hattempts hsent
        exact ⟨rfl, rfl, rfl, hcarries.sets hfixed request.headers⟩

/-- A token whose headers set its own credential again. -/
def insistentToken : Token :=
  { text := "t", expiresAt := some ⟨31 * Instant.second⟩
    headers := [("X-Sent", "1"), ("Authorization", "2")] }

/-- A signer that sets one name twice, in two ways of writing it. -/
def insistentSigner : Signer :=
  let own : List FixedHeader := [(⟨"x-sent"⟩, ⟨"3", true⟩), (⟨"x-sent"⟩, ⟨"4", true⟩)]
  ⟨.bearer, .refreshing ⟨Attempt.fail (.auth "no source"), insistentToken, own⟩⟩

def insistentSignature : Signature :=
  ⟨"Bearer", insistentToken.text, insistentToken.headers, [("x-sent", "3"), ("X-SENT", "4")]⟩

/-- Headers that have two values for each name. -/
def doubledHeaders : HeaderMap :=
  ⟨[(⟨"x-sent"⟩, [⟨"5", false⟩, ⟨"6", false⟩]), (.accept, [⟨"7", false⟩, ⟨"8", false⟩])]⟩

theorem sign_sets_signature_insistent :
    let signing := insistentSigner.sign doubledHeaders
    let signed := (signing.answerAll .bare).2
    insistentSigner.Carries insistentSignature ∧
      signing.Runs (signing.askAll .bare) (signing.answerAll .bare) ∧
      insistentSigner.IsFresh (signing.askAll .bare) ∧ signed.outcome = .ok () ∧
      signed.headers.values .authorization = [⟨"2", true⟩] ∧
      signed.headers.values ⟨"x-sent"⟩ = [⟨"4", true⟩] ∧
      signed.headers.values .accept = [⟨"7", false⟩, ⟨"8", false⟩] := by
  intro signing signed
  have hcarries : insistentSigner.Carries insistentSignature := .refreshing rfl
  have hruns := runs_askAll .bare signing
  have hfresh : insistentSigner.IsFresh (signing.askAll .bare) := by
    rintro inner ⟨⟩ now hnow
    obtain rfl : now = ⟨0⟩ := by
      have hasked : signing.askAll .bare = [⟨.wallClock, ⟨0⟩⟩] := rfl
      rw [hasked, List.mem_singleton] at hnow
      cases hnow
      rfl
    decide
  have hok : signed.outcome = .ok () := rfl
  obtain ⟨-, hsets, -⟩ := (sign_sets_signature hcarries).1 _ _ _ _ hruns hfresh hok
  exact ⟨hcarries, hruns, hfresh, hok, hsets.set (by decide), hsets.set (by decide),
    hsets.kept (by decide)⟩

end Signer

end ControlPlane
