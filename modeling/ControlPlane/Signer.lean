import ControlPlane.Gate
import ControlPlane.Kind
import ControlPlane.Token

/-!
# Signers

A signer adds proof of identity to a request. A fixed one sets headers that were computed once; a
refreshing one keeps a token, fetches another when it has expired, and sets the token's headers and
then its own. Whatever a signer sets replaces what was there and is marked sensitive.
-/

namespace ControlPlane

/-- A header to set: what it is called and what it says. -/
abbrev FixedHeader := HeaderName × HeaderValue

namespace FixedHeader

/-- The name of a header, or why it is none. -/
def name (text : String) : Except Error HeaderName :=
  match HeaderName.ofText? text with
  | some name => .ok name
  | none => .error (.auth ("invalid header name " ++ text ++ ": invalid HTTP header name"))

/-- A sensitive value, or why it is none. -/
def sensitive (text : String) : Except Error HeaderValue :=
  match HeaderValue.ofText? text with
  | some value => .ok { value with isSensitive := true }
  | none =>
    .error (.auth "credential is not a valid header value: failed to parse header value")

/-- A sensitive header, or why it is none. -/
def ofTexts (nameText valueText : String) : Except Error FixedHeader := do
  let name ← name nameText
  let value ← sensitive valueText
  return (name, value)

/-- Sets headers in order; of two with one name the last one stays. -/
def insertAll (headers : HeaderMap) (fixed : List FixedHeader) : HeaderMap :=
  fixed.foldl (fun headers header => headers.insert header.1 header.2) headers

end FixedHeader

/-- Where tokens come from. -/
abbrev TokenSource := Attempt Token

/-- A signer whose token is fetched again when it has expired. -/
structure TokenSigner where
  source : TokenSource
  cached : Token
  headers : List FixedHeader := []

/-- The state of a request after signing, and whether signing went through. -/
structure Signed where
  headers : HeaderMap
  outcome : Except Failure Unit

namespace TokenSigner

/-- Adds a header that goes with every token. -/
def withHeader (signer : TokenSigner) (name value : String) : Except Error TokenSigner := do
  let header ← FixedHeader.ofTexts name value
  return { signer with headers := signer.headers ++ [header] }

/-- The gate before a token that is kept: one that has not expired can be used, else another is
fetched. -/
def gate (source : TokenSource) : Gate Token Token where
  look kept := do
    let now ← Program.wallClock
    return if kept.isExpired now then none else some kept
  last kept := do
    Program.debug "Refreshing expired federated token"
    match ← source.run with
    | .error failure => return (kept, .error failure)
    | .ok token => return (token, .ok token)

/-- A token that has not expired, and the signer that keeps it. -/
def freshToken (signer : TokenSigner) : Program (TokenSigner × Except Failure Token) := do
  let (kept, token) ← (gate signer.source).get signer.cached
  return ({ signer with cached := kept }, token)

/-- Sets headers given as texts, up to the first that is none. -/
def setTexts (headers : HeaderMap) : List (String × String) → Signed
  | [] => ⟨headers, .ok ()⟩
  | (name, value) :: rest =>
    match FixedHeader.ofTexts name value with
    | .error error => ⟨headers, .error (.error error)⟩
    | .ok header => setTexts (headers.insert header.1 header.2) rest

/-- Sets the headers of a token and then fixed ones. -/
def setToken (headers : HeaderMap) (token : Token) (fixed : List FixedHeader) : Signed :=
  match FixedHeader.sensitive ("Bearer " ++ token.text) with
  | .error error => ⟨headers, .error (.error error)⟩
  | .ok value =>
    let signed := setTexts (headers.insert .authorization value) token.headers
    match signed.outcome with
    | .error _ => signed
    | .ok () => { signed with headers := FixedHeader.insertAll signed.headers fixed }

/-- What having a token, or a failure to have one, makes of a request's headers. -/
def conclude (headers : HeaderMap) (fixed : List FixedHeader) : Except Failure Token → Signed
  | .error failure => ⟨headers, .error failure⟩
  | .ok token => setToken headers token fixed

def sign (signer : TokenSigner) (headers : HeaderMap) : Program (TokenSigner × Signed) := do
  let (kept, token) ← signer.freshToken
  return (kept, conclude headers kept.headers token)

end TokenSigner

/-- How a signer works. -/
inductive SignerRule where
  | fixed (headers : List FixedHeader)
  | refreshing (signer : TokenSigner)

/-- A means to sign requests, and the kind of authentication it stands for. -/
structure Signer where
  kind : AuthKind
  rule : SignerRule

namespace Signer

/-- The one header `Authorization: scheme credential`. -/
def authorizationHeader (scheme credential : String) : Except Error FixedHeader := do
  let value ← FixedHeader.sensitive (scheme ++ " " ++ credential)
  return (.authorization, value)

/-- A signer that sends one credential under the scheme of its kind. -/
def ofCredential (kind : AuthKind) (credential : String) : Except Error Signer := do
  let header ← authorizationHeader kind.scheme credential
  return ⟨kind, .fixed [header]⟩

def sign (signer : Signer) (headers : HeaderMap) : Program (Signer × Signed) :=
  match signer.rule with
  | .fixed fixed => return (signer, ⟨FixedHeader.insertAll headers fixed, .ok ()⟩)
  | .refreshing inner => do
    let (kept, signed) ← inner.sign headers
    return (⟨signer.kind, .refreshing kept⟩, signed)

/-- The debug text, which shows the kind alone. -/
def debugText (signer : Signer) : String :=
  Text.debugRecord "Signer" [("kind", signer.kind.debugName)] true

end Signer

end ControlPlane
