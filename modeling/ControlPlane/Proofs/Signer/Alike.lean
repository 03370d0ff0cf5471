import ControlPlane.Authenticator.Azure
import ControlPlane.Proofs.Gate.Coupled

/-!
# Signers that differ in their secrets

Alike signers set headers of the same names, and what they set is sensitive: after they have signed
alike requests, the requests are shown alike.
-/

namespace ControlPlane

open Program

/-! ### Headers to set -/

namespace FixedHeader

def shown (header : FixedHeader) : FixedHeader :=
  (header.1, header.2.shown)

theorem shown_insert_eq {headers others : HeaderMap} {header twin : FixedHeader}
    (hheaders : headers.shown = others.shown) (h : header.shown = twin.shown) :
    (headers.insert header.1 header.2).shown = (others.insert twin.1 twin.2).shown := by
  obtain ⟨hname, hvalue⟩ := Prod.mk.inj h
  rw [HeaderMap.shown_insert, HeaderMap.shown_insert, hheaders, hname, hvalue]

theorem shown_insertAll_eq {fixed twins : List FixedHeader}
    (hfixed : fixed.map shown = twins.map shown) {headers others : HeaderMap}
    (hheaders : headers.shown = others.shown) :
    (insertAll headers fixed).shown = (insertAll others twins).shown := by
  induction fixed generalizing twins headers others with
  | nil =>
      obtain rfl : twins = [] := List.map_eq_nil_iff.mp hfixed.symm
      exact hheaders
  | cons header fixed ih =>
      obtain ⟨twin, rest, rfl, hheader, hrest⟩ := List.map_eq_cons_iff.mp hfixed.symm
      exact ih hrest.symm (shown_insert_eq hheaders hheader.symm)

theorem has_insertAll {headers : HeaderMap} {name : HeaderName} (h : headers.Has name)
    (fixed : List FixedHeader) : (insertAll headers fixed).Has name := by
  induction fixed generalizing headers with
  | nil => exact h
  | cons header fixed ih => exact ih (h.insert header.1 header.2)

theorem sensitive_alike {secret twin : String} (h : Interchangeable secret twin) :
    SameOutcome (fun value other => value.shown = other.shown) (sensitive secret)
      (sensitive twin) := by
  unfold Interchangeable at h
  unfold sensitive
  cases hsecret : HeaderValue.ofText? secret with
  | none =>
      rw [hsecret, Option.isSome_none] at h
      have htwin : HeaderValue.ofText? twin = none :=
        Option.isNone_iff_eq_none.mp (Option.isSome_eq_false_iff.mp h.symm)
      rw [htwin]
      exact .error _
  | some value =>
      rw [hsecret, Option.isSome_some] at h
      obtain ⟨other, hother⟩ := Option.isSome_iff_exists.mp h.symm
      rw [hother]
      exact .ok rfl

theorem ofTexts_alike (name : String) {secret twin : String} (h : Interchangeable secret twin) :
    SameOutcome (fun header other => header.shown = other.shown) (ofTexts name secret)
      (ofTexts name twin) := by
  unfold ofTexts
  cases FixedHeader.name name with
  | error error => exact .error error
  | ok headerName =>
      exact (sensitive_alike h).bind fun _ _ hvalue => .ok (congrArg (headerName, ·) hvalue)

end FixedHeader

/-! ### Signed requests -/

/-- Headers that are shown alike after signing. No name has lost its values. -/
structure Signed.Alike (headers : HeaderMap) (signed twin : Signed) : Prop where
  shown : signed.headers.shown = twin.headers.shown
  keeps (name : HeaderName) (h : headers.Has name) : signed.headers.Has name
  outcome : signed.outcome = twin.outcome

/-- Neither is signed, and two errors say why. -/
def Signed.Apart (signed twin : Signed) : Prop :=
  ErrorsApart signed.outcome twin.outcome

namespace TokenSigner

variable {headers others : HeaderMap}

theorem setTexts_alike {texts twins : List (String × String)}
    (htexts : List.Forall₂ HeaderText.Alike texts twins) (hheaders : headers.shown = others.shown) :
    Signed.Alike headers (setTexts headers texts) (setTexts others twins) := by
  induction htexts generalizing headers others with
  | nil => exact ⟨hheaders, fun _ => id, rfl⟩
  | @cons text twin texts twins htext _ ih =>
      obtain ⟨name, secret⟩ := text
      obtain ⟨twinName, twinSecret⟩ := twin
      obtain ⟨hname, hsecret⟩ := htext
      obtain rfl : name = twinName := hname
      unfold setTexts
      have hheader := FixedHeader.ofTexts_alike name hsecret
      generalize FixedHeader.ofTexts name secret = found,
        FixedHeader.ofTexts name twinSecret = twinFound at hheader
      cases hheader with
      | error error => exact ⟨hheaders, fun _ => id, rfl⟩
      | @ok header other hheader =>
          have hrest := ih (FixedHeader.shown_insert_eq hheaders hheader)
          exact ⟨hrest.shown, fun name h => hrest.keeps name (h.insert _ _), hrest.outcome⟩

theorem setToken_alike {token twin : Token} (htoken : token.Alike twin)
    {fixed twins : List FixedHeader}
    (hfixed : fixed.map FixedHeader.shown = twins.map FixedHeader.shown)
    (hheaders : headers.shown = others.shown) :
    Signed.Alike headers (setToken headers token fixed) (setToken others twin twins) := by
  unfold setToken
  have hbearer := FixedHeader.sensitive_alike (htoken.text.append "Bearer ")
  generalize FixedHeader.sensitive ("Bearer " ++ token.text) = found,
    FixedHeader.sensitive ("Bearer " ++ twin.text) = twinFound at hbearer
  cases hbearer with
  | error error => exact ⟨hheaders, fun _ => id, rfl⟩
  | @ok value other hvalue =>
      have hbearer : (headers.insert .authorization value).shown =
          (others.insert .authorization other).shown := by
        rw [HeaderMap.shown_insert, HeaderMap.shown_insert, hheaders, hvalue]
      have htexts := setTexts_alike htoken.headers hbearer
      have hkeeps : ∀ name, headers.Has name →
          (setTexts (headers.insert .authorization value) token.headers).headers.Has name :=
        fun name h => htexts.keeps name (h.insert _ _)
      dsimp only
      rw [← htexts.outcome]
      split
      · exact ⟨htexts.shown, hkeeps, htexts.outcome⟩
      · exact ⟨FixedHeader.shown_insertAll_eq hfixed htexts.shown,
          fun name h => FixedHeader.has_insertAll (hkeeps name h) fixed, rfl⟩

/-! ### Tokens -/

variable [Wording]

/-- Signers whose tokens come from coupled sources. -/
structure Alike (signer twin : TokenSigner) : Prop where
  source : Attempt.Coupled Token.Alike signer.source twin.source
  cached : signer.cached.Alike twin.cached
  headers : signer.headers.map FixedHeader.shown = twin.headers.map FixedHeader.shown

theorem gate_alike {source twin : TokenSource} (hsource : Attempt.Coupled Token.Alike source twin) :
    (gate source).Alike (gate twin) Token.Alike Token.Alike Token.Alike where
  look kept other h := by
    refine inStep_wallClock.bind ?_
    rintro now _ rfl
    have hexpired : kept.isExpired now = other.isExpired now := by
      rw [Token.isExpired, Token.isExpired, h.expiresAt]
    rw [← hexpired]
    split
    · exact .done ⟨.none, fun _ => h⟩
    · exact .done ⟨.some h, fun _ => h⟩
  stages := .nil
  last kept other h := by
    apply Coupled.after_log
    refine Program.Coupled.bind hsource ?_ ?_
    · rintro _ _ (failure | htoken)
      · exact .done ⟨h, .error failure⟩
      · exact .done ⟨htoken, .ok htoken⟩
    · rintro _ _ ⟨herrors⟩
      exact apart_done (.mk herrors)

variable {signer twin : TokenSigner}

theorem Alike.freshToken (h : signer.Alike twin) :
    Coupled (fun left other => left.1.Alike other.1 ∧ SameOutcome Token.Alike left.2 other.2)
      TellApart signer.freshToken twin.freshToken := by
  refine ((gate_alike h.source).get h.cached).bind ?_ ?_
  · rintro left other ⟨hkept, htoken⟩
    exact .done ⟨⟨h.source, hkept, h.headers⟩, htoken⟩
  · intro left other htold
    exact apart_done htold

theorem Alike.sign (h : signer.Alike twin) (hheaders : headers.shown = others.shown) :
    Coupled (fun left other => left.1.Alike other.1 ∧ Signed.Alike headers left.2 other.2)
      (fun left other => left.2.Apart other.2) (signer.sign headers) (twin.sign others) := by
  refine h.freshToken.bind ?_ ?_
  · rintro ⟨kept, _⟩ ⟨other, _⟩ ⟨hkept, failure | htoken⟩
    · exact .done ⟨hkept, hheaders, fun _ => id, rfl⟩
    · exact .done ⟨hkept, setToken_alike htoken hkept.headers hheaders⟩
  · rintro ⟨kept, _⟩ ⟨other, _⟩ ⟨herrors⟩
    exact apart_done (.mk herrors)

end TokenSigner

/-! ### Signers -/

variable [Wording]

inductive SignerRule.Alike : SignerRule → SignerRule → Prop where
  | fixed {headers twins : List FixedHeader}
      (h : headers.map FixedHeader.shown = twins.map FixedHeader.shown) :
      Alike (.fixed headers) (.fixed twins)
  | refreshing {signer twin : TokenSigner} (h : signer.Alike twin) :
      Alike (.refreshing signer) (.refreshing twin)

structure Signer.Alike (signer twin : Signer) : Prop where
  kind : signer.kind = twin.kind
  rule : signer.rule.Alike twin.rule

namespace Signer

/-- **Signatures are not shown.** Alike signers leave headers that are shown alike. -/
theorem Alike.sign {signer twin : Signer} (h : signer.Alike twin) {headers others : HeaderMap}
    (hheaders : headers.shown = others.shown) :
    Coupled (fun left other => left.1.Alike other.1 ∧ Signed.Alike headers left.2 other.2)
      (fun left other => left.2.Apart other.2) (signer.sign headers) (twin.sign others) := by
  obtain ⟨kind, rule⟩ := signer
  obtain ⟨_, twinRule⟩ := twin
  obtain ⟨rfl, hrule⟩ := h
  cases hrule with
  | fixed hfixed =>
      refine .done ⟨⟨rfl, .fixed hfixed⟩, ?_⟩
      exact ⟨FixedHeader.shown_insertAll_eq hfixed hheaders,
        fun name h => FixedHeader.has_insertAll h _, rfl⟩
  | refreshing hsigner =>
      refine (hsigner.sign hheaders).bind ?_ ?_
      · rintro _ _ ⟨hkept, hsigned⟩
        exact .done ⟨⟨rfl, .refreshing hkept⟩, hsigned⟩
      · intro left other hsigned
        exact apart_done hsigned

omit [Wording] in
theorem authorizationHeader_alike (scheme : String) {secret twin : String}
    (h : Interchangeable secret twin) :
    SameOutcome (fun header other => header.shown = other.shown)
      (authorizationHeader scheme secret) (authorizationHeader scheme twin) := by
  refine (FixedHeader.sensitive_alike (h.append (scheme ++ " "))).bind ?_
  intro value other hvalue
  exact .ok (congrArg (HeaderName.authorization, ·) hvalue)

theorem ofCredential_alike (kind : AuthKind) {secret twin : String}
    (h : Interchangeable secret twin) :
    SameOutcome Alike (ofCredential kind secret) (ofCredential kind twin) := by
  refine (authorizationHeader_alike kind.scheme h).bind ?_
  intro header other hheader
  exact .ok ⟨rfl, .fixed (congrArg (fun header => [header]) hheader)⟩

end Signer

theorem Authenticator.azureSigner_alike (kind : AuthKind) {source : TokenSource}
    (hsource : Attempt.Coupled Token.Alike source source) {token twin : Token}
    (htoken : token.Alike twin) (resourceId : Option String) :
    SameOutcome Signer.Alike (azureSigner kind source token resourceId)
      (azureSigner kind source twin resourceId) := by
  unfold azureSigner TokenSigner.withHeader
  cases resourceId with
  | none => exact .ok ⟨rfl, .refreshing ⟨hsource, htoken, rfl⟩⟩
  | some resourceId =>
      dsimp only
      cases FixedHeader.ofTexts resourceIdHeader resourceId with
      | error error => exact .error error
      | ok header => exact .ok ⟨rfl, .refreshing ⟨hsource, htoken, rfl⟩⟩

end ControlPlane
