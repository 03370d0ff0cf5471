import ControlPlane.Base64
import ControlPlane.Json.Record
import ControlPlane.Token
import ControlPlane.Wire

/-!
# Token endpoints

A token endpoint takes a form and answers with tokens. User name and password in its URL go into a
header of basic authentication and are no part of the URL that is sent, unless the user name is no
text once its percent encoding is undone.
-/

namespace ControlPlane

/-- The fault of an exchange with a token endpoint; a late answer counts as none. -/
def WireFault.httpFault : WireFault → HttpFault
  | .failed fault => fault
  | .timedOut url => .unsent url

namespace Endpoint

/-- A part of a URL without its percent encoding, if that leaves a text. -/
def plainText? (part : String) : Option String :=
  (Url.percentDecode (Bytes.ofString part)).decode?

/-- A user name and a password as a header, and the URL without them. A password that is no text is
dropped; with a user name that is none, the URL stays as it is. -/
def takeUser (url : Url) : Url × Option String :=
  let password := url.password.bind plainText?
  match plainText? url.username with
  | none => (url, none)
  | some username =>
    if username.isEmpty ∧ password.isNone then (url, none)
    else
      let credential := Base64.basicCredential username (password.getD "")
      ({ url with username := "", password := none }, some ("Basic " ++ credential))

def formType : String := "application/x-www-form-urlencoded"

def formRequest (url : Url) (form : List (String × String)) : Request :=
  let (bare, credential) := takeUser url
  let headers : HeaderMap := {}
  let headers := match credential with
    | none => headers
    | some text => headers.insert .authorization ⟨text, true⟩
  { method := .post
    url := bare
    headers := headers.insert .contentType ⟨formType, false⟩
    body := .octets (Bytes.ofString (Url.Form.encode form)) }

/-- Sends a form, and gives the answer or the error of having none. -/
def post (urlText : String) (form : List (String × String)) : Attempt Response := do
  match Url.parse urlText with
  | .error _ => Attempt.fail (.http (.unformed none))
  | .ok url =>
    if url.host.isNone then Attempt.fail (.http (.unformed (some url.text)))
    else
      match ← (sendOverWire (formRequest url form) : Program _) with
      | .error fault => Attempt.fail (.http fault.httpFault)
      | .ok response => return response

structure Grant where
  accessToken : Option String := none
  idToken : Option String := none
  /-- Seconds until the tokens end. -/
  expiresIn : Option Int := none
  deriving DecidableEq, Repr

open Json in
def Grant.schema : Schema Grant where
  fields := [
    Field.of "access_token" (Decoder.optional Decoder.string) fun value grant =>
      { grant with accessToken := value },
    Field.of "id_token" (Decoder.optional Decoder.string) fun value grant =>
      { grant with idToken := value },
    Field.of "expires_in" (Decoder.optional Decoder.integer) fun value grant =>
      { grant with expiresIn := value }]
  leastItems := 0

def grantOf (response : Response) : Attempt Grant :=
  Attempt.ofOption (.http .undecodable) ((Grant.schema.decoder {}).decode? response.body)

/-- A token that ends a number of seconds from now. -/
def lastingToken (text : String) (seconds : Int) : Attempt Token := do
  let now ← (Program.wallClock : Program _)
  match Token.lasting? text now seconds with
  | some token => return token
  | none => throw .outOfCalendar

/-- The access token of a grant, if it has one. -/
def accessTokenOf (grant : Grant) : Attempt (Option Token) :=
  match grant.accessToken, grant.expiresIn with
  | none, _ => return none
  | some text, none => return some { text := text }
  | some text, some seconds => return some (← lastingToken text seconds)

end Endpoint

end ControlPlane
