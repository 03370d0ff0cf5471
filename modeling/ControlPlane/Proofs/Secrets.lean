import Mathlib.Data.List.Forall2
import ControlPlane.Authenticator.Azure
import ControlPlane.Authenticator.Profile
import ControlPlane.Proofs.Journal
import ControlPlane.Proofs.Program.Effects
import ControlPlane.ServiceAccount

/-!
# Answers that differ in their secrets

Two runs of a client that hold different secrets ask almost the same questions: their calls differ
in what sensitive headers say. The answers may differ as well, but only in secrets: the tokens that
a command prints or an endpoint grants, and the tokens and passwords of a profile file. An answer
that gives no token may say anything, and what it says is its complaint.
-/

namespace ControlPlane

/-- A header can hold both texts or neither. -/
def Interchangeable (secret twin : String) : Prop :=
  (HeaderValue.ofText? secret).isSome = (HeaderValue.ofText? twin).isSome

namespace Interchangeable

theorem refl (secret : String) : Interchangeable secret secret := rfl

theorem iff_all {secret twin : String} :
    Interchangeable secret twin ↔
      secret.toList.all HeaderValue.isAllowed = twin.toList.all HeaderValue.isAllowed := by
  have hsome : ∀ text : String,
      (HeaderValue.ofText? text).isSome = text.toList.all HeaderValue.isAllowed := by
    intro text
    unfold HeaderValue.ofText?
    cases text.toList.all HeaderValue.isAllowed <;> rfl
  rw [Interchangeable, hsome, hsome]

theorem append {secret twin : String} (start : String) (h : Interchangeable secret twin) :
    Interchangeable (start ++ secret) (start ++ twin) := by
  rw [iff_all] at *
  rw [String.toList_append, String.toList_append, List.all_append, List.all_append, h]

end Interchangeable

/-! ### What answers hold -/

/-- A header of a token, with the same name and another secret. -/
def HeaderText.Alike (header twin : String × String) : Prop :=
  header.1 = twin.1 ∧ Interchangeable header.2 twin.2

/-- Tokens that end at the same time and carry headers of the same names. -/
structure Token.Alike (token twin : Token) : Prop where
  text : Interchangeable token.text twin.text
  expiresAt : token.expiresAt = twin.expiresAt
  headers : List.Forall₂ HeaderText.Alike token.headers twin.headers

theorem Token.Alike.refl (token : Token) : token.Alike token :=
  ⟨rfl, rfl, List.forall₂_same.mpr fun _ _ => ⟨rfl, rfl⟩⟩

structure Endpoint.Grant.Alike (grant twin : Endpoint.Grant) : Prop where
  accessToken : Option.Rel Interchangeable grant.accessToken twin.accessToken
  idToken : Option.Rel Interchangeable grant.idToken twin.idToken
  expiresIn : grant.expiresIn = twin.expiresIn

theorem Endpoint.Grant.Alike.refl (grant : Endpoint.Grant) : grant.Alike grant where
  accessToken := by cases grant.accessToken <;> constructor; rfl
  idToken := by cases grant.idToken <;> constructor; rfl
  expiresIn := rfl

/-- What an answer grants. -/
def Endpoint.grant? (response : Response) : Option Endpoint.Grant :=
  (Endpoint.Grant.schema.decoder {}).decode? response.body

/-- Answers of one status. If they grant a request, they grant the same but for the tokens. -/
structure Response.GrantsAlike (response twin : Response) : Prop where
  status : response.status = twin.status
  grant : response.isSuccess = true →
    Option.Rel Endpoint.Grant.Alike (Endpoint.grant? response) (Endpoint.grant? twin)

theorem Response.GrantsAlike.refl (response : Response) : response.GrantsAlike response where
  status := rfl
  grant _ := by
    cases Endpoint.grant? response with
    | none => exact .none
    | some grant => exact .some (.refl grant)

theorem Response.GrantsAlike.isSuccess_eq {response twin : Response}
    (h : response.GrantsAlike twin) : response.isSuccess = twin.isSuccess := by
  rw [isSuccess, isSuccess, h.status]

/-- The output of commands that both fail, or print the same but for the token. -/
structure CommandOutput.PrintsAlike (output twin : CommandOutput) : Prop where
  succeeded : output.succeeded = twin.succeeded
  token : output.succeeded = true →
    Option.Rel Token.Alike (Authenticator.readPrinted? output.stdout)
      (Authenticator.readPrinted? twin.stdout)

theorem CommandOutput.PrintsAlike.refl (output : CommandOutput) : output.PrintsAlike output where
  succeeded := rfl
  token _ := by
    cases Authenticator.readPrinted? output.stdout with
    | none => exact .none
    | some token => exact .some (.refl token)

namespace Profile

/-- Values of one key: passwords differ, and so do tokens, but not in being there. -/
def ValuesAlike (key value twin : String) : Prop :=
  value = twin ∨ key = "password" ∨
    key = "token" ∧ value.isEmpty = twin.isEmpty ∧ Interchangeable value twin

def PairsAlike (pair twin : String × String) : Prop :=
  pair.1 = twin.1 ∧ ValuesAlike pair.1 pair.2 twin.2

structure Section.Alike (first twin : Section) : Prop where
  name : first.name = twin.name
  pairs : List.Forall₂ PairsAlike first.pairs twin.pairs

def File.Alike (file twin : File) : Prop :=
  List.Forall₂ Section.Alike file.sections twin.sections

variable {pairs twins : List (String × String)}

theorem find?_alike {α : Type} {related : α → α → Prop} {items others : List α}
    (h : List.Forall₂ related items others) (first second : α → Bool)
    (hsame : ∀ item other, related item other → first item = second other) :
    Option.Rel related (items.find? first) (others.find? second) := by
  induction h with
  | nil => exact .none
  | @cons item other items others hitem _ ih =>
      rw [List.find?_cons, List.find?_cons, ← hsame item other hitem]
      cases first item with
      | true => exact .some hitem
      | false => exact ih

theorem pairsOf_alike {file twinFile : File} (h : file.Alike twinFile) (name : Option String) :
    List.Forall₂ PairsAlike (file.pairsOf name) (twinFile.pairsOf name) := by
  have hfound := find?_alike h (fun part => part.name = name) (fun part => part.name = name)
    fun part other halike => by rw [halike.name]
  unfold File.pairsOf
  generalize file.sections.find? _ = first, twinFile.sections.find? _ = second at hfound
  cases hfound with
  | none => exact .nil
  | some hpart => exact hpart.pairs

theorem profile_alike {file twinFile : File} (h : file.Alike twinFile) (name : String) :
    List.Forall₂ PairsAlike (file.profile name) (twinFile.profile name) := by
  unfold File.profile
  split
  · exact List.rel_append (pairsOf_alike h none) (pairsOf_alike h (some name))
  · exact List.rel_append .nil (pairsOf_alike h (some name))

theorem valueOf_alike (h : List.Forall₂ PairsAlike pairs twins) (key : String) :
    Option.Rel (ValuesAlike key) (valueOf pairs key) (valueOf twins key) := by
  have hfound := find?_alike (List.forall₂_reverse_iff.mpr h) (fun pair => pair.1 = key)
    (fun pair => pair.1 = key) fun pair other halike => by rw [halike.1]
  unfold valueOf
  generalize hfirst : pairs.reverse.find? _ = first, twins.reverse.find? _ = second at hfound
  cases hfound with
  | none => exact .none
  | @some pair other hpair =>
      have hkey : pair.1 = key := by simpa using List.find?_some hfirst
      exact .some (hkey ▸ hpair.2)

theorem valueOf_eq (h : List.Forall₂ PairsAlike pairs twins) {key : String}
    (hpassword : key ≠ "password") (htoken : key ≠ "token") :
    valueOf pairs key = valueOf twins key := by
  have halike := valueOf_alike h key
  generalize valueOf pairs key = value, valueOf twins key = twin at halike
  cases halike with
  | none => rfl
  | some hvalue =>
      rcases hvalue with rfl | hkey | ⟨hkey, -⟩
      · rfl
      · exact absurd hkey hpassword
      · exact absurd hkey htoken

end Profile

section

variable [Wording]

/-- Texts that say the same as a key, and the same but for secrets as a profile file. If they are
none, they are refused in the same words. -/
structure TextsAlike (text twin : String) : Prop where
  key : ServiceAccountKey.parse text = ServiceAccountKey.parse twin
  file : Option.Rel Profile.File.Alike (Profile.File.parse? text) (Profile.File.parse? twin)
  words : Profile.File.parse? text = none → Wording.profile text = Wording.profile twin

theorem TextsAlike.refl (text : String) : TextsAlike text text where
  key := rfl
  file := by
    cases Profile.File.parse? text with
    | none => exact .none
    | some file =>
        refine .some (List.forall₂_same.mpr fun part _ => ⟨rfl, ?_⟩)
        exact List.forall₂_same.mpr fun _ _ => ⟨rfl, .inl rfl⟩
  words _ := rfl

end

/-! ### Questions and answers -/

/-- Calls say what they accept. -/
def Request.IsCall (request : Request) : Prop :=
  request.headers.Has .accept

/-- A form for a token endpoint. -/
def Request.IsForm (request : Request) : Prop :=
  ∃ url form, request = Endpoint.formRequest url form

theorem Request.IsForm.not_isCall {request : Request} (h : request.IsForm) : ¬ request.IsCall := by
  have haccept : HeaderName.accept ≠ .contentType := by decide
  have hauthorization : HeaderName.accept ≠ .authorization := by decide
  obtain ⟨url, form, rfl⟩ := h
  intro hcall
  apply hcall
  unfold Endpoint.formRequest
  obtain ⟨bare, _ | credential⟩ := Endpoint.takeUser url
  · exact HeaderMap.values_insert_ne _ haccept _
  · exact (HeaderMap.values_insert_ne _ haccept _).trans
      (HeaderMap.values_insert_ne _ hauthorization _)

/-- Questions that are the same, or send calls that are shown alike. -/
inductive Query.Alike : Query → Query → Prop where
  | same (query : Query) (hquery : query.attempted? = none) : Alike query query
  | attempt {request twin : Request} (hcall : request.IsCall) (h : request.shown = twin.shown) :
      Alike (.attempt request) (.attempt twin)
  | exchange {request twin : Request} (hcall : request.IsCall) (h : request.shown = twin.shown) :
      Alike (.exchange request) (.exchange twin)

section

variable [Wording]

/-- Answers that are the same but for secrets. A call is answered in the same way. -/
inductive Query.Agree : (first second : Query) → first.Answer → second.Answer → Prop where
  | same (query : Query) (answer : query.Answer) : Agree query query answer answer
  | attempt (request twin : Request) (answer : Except Error Response) :
      Agree (.attempt request) (.attempt twin) answer answer
  | exchange (request twin : Request) (answer : Except WireFault Response) :
      Agree (.exchange request) (.exchange twin) answer answer
  | grants {request : Request} (hform : request.IsForm) {response twin : Response}
      (h : response.GrantsAlike twin) :
      Agree (.exchange request) (.exchange request) (.ok response) (.ok twin)
  | prints (program : String) (arguments : List String) {output twin : CommandOutput}
      (h : output.PrintsAlike twin) :
      Agree (.runCommand program arguments) (.runCommand program arguments) (.ok output) (.ok twin)
  | reads (path : String) {octets others : Bytes} {text twin : String}
      (htext : octets.decode? = some text) (htwin : others.decode? = some twin)
      (h : TextsAlike text twin) :
      Agree (.readFile path) (.readFile path) (.ok octets) (.ok others)

/-- What a refusal says. -/
def Response.complaint? (response : Response) : Option String :=
  if response.isSuccess then none else some response.text

open Authenticator in
/-- What a command says that fails, or what its output is said to be if it holds no token. -/
def CommandOutput.complaint? (output : CommandOutput) : Option String :=
  if output.succeeded then
    match readPrinted? output.stdout with
    | some _ => none
    | none => some (unreadable output.stdout)
  else some (String.ofList (Text.trim (Bytes.lossy output.stderr).toList))

omit [Wording] in
theorem Response.GrantsAlike.isSome_complaint? {response twin : Response}
    (h : response.GrantsAlike twin) :
    response.complaint?.isSome = twin.complaint?.isSome := by
  unfold complaint?
  rw [← h.isSuccess_eq]
  split <;> rfl

theorem CommandOutput.PrintsAlike.isSome_complaint? {output twin : CommandOutput}
    (h : output.PrintsAlike twin) : output.complaint?.isSome = twin.complaint?.isSome := by
  unfold complaint?
  rw [← h.succeeded]
  split
  · next hsucceeded =>
      have htoken := h.token hsucceeded
      generalize Authenticator.readPrinted? output.stdout = first,
        Authenticator.readPrinted? twin.stdout = second at htoken
      cases htoken <;> rfl
  · rfl

omit [Wording] in
/-- Complaints that differ, where there are two or none. -/
theorem exists_words_ne {complaint twin : Option String} (hboth : complaint.isSome = twin.isSome)
    (hne : complaint ≠ twin) :
    ∃ words others, complaint = some words ∧ twin = some others ∧ words ≠ others := by
  cases complaint <;> cases twin <;> simp_all

/-- What an answer says that gives no token. -/
def Query.complaint? : (query : Query) → query.Answer → Option String
  | .exchange _, .ok response => response.complaint?
  | .runCommand _ _, .ok output => output.complaint?
  | _, _ => none

/-- Alike answers both complain, or neither does. -/
theorem Query.Agree.isSome_complaint? {first second : Query} {answer : first.Answer}
    {reply : second.Answer} (h : first.Agree second answer reply) :
    (first.complaint? answer).isSome = (second.complaint? reply).isSome := by
  cases h with
  | same => rfl
  | attempt => rfl
  | exchange request twin answer => cases answer <;> rfl
  | grants _ h => exact h.isSome_complaint?
  | prints _ _ h => exact h.isSome_complaint?
  | reads => rfl

/-- The complaints of a run, in order. -/
def complaintsOf (trace : List Asked) : List String :=
  trace.filterMap fun asked => asked.query.complaint? asked.answer

theorem complaintsOf_cons (asked : Asked) (trace : List Asked) :
    complaintsOf (asked :: trace) =
      (asked.query.complaint? asked.answer).toList ++ complaintsOf trace := by
  unfold complaintsOf
  rw [List.filterMap_cons]
  cases asked.query.complaint? asked.answer <;> rfl

end

/-- The line that a question writes. -/
def Query.line? : Query → Option (Level × String)
  | .log level line => some (level, line)
  | _ => none

theorem Query.Alike.line?_eq {first second : Query} (h : first.Alike second) :
    first.line? = second.line? := by
  cases h <;> rfl

/-- The lines of a run, at every level. -/
def linesOf (trace : List Asked) : List (Level × String) :=
  trace.filterMap fun asked => asked.query.line?

variable [Wording]

/-- Answers that differ only in secrets, for as long as the questions are alike. -/
def AnsweredAlike : List Asked → List Asked → Prop
  | first :: rest, second :: others =>
    first.query.Alike second.query →
      first.query.Agree second.query first.answer second.answer ∧ AnsweredAlike rest others
  | _, _ => True

theorem answeredAlike_askEach {α β : Type} {answers others : Nat → Answers}
    (h : ∀ n, ∀ first second : Query, first.Alike second →
      first.Agree second (answers n first) (others n second))
    (program : Program α) (twin : Program β) :
    AnsweredAlike (program.askEach answers) (twin.askEach others) := by
  induction program generalizing twin answers others with
  | done value => simp [Program.askEach, AnsweredAlike]
  | ask query resume ih =>
      cases twin with
      | done value => simp [Program.askEach, AnsweredAlike]
      | ask other next =>
          intro halike
          exact ⟨h 0 query other halike, ih _ (fun n => h (n + 1)) _⟩

theorem answeredAlike_askAll {α β : Type} {answers others : Answers}
    (h : ∀ first second : Query, first.Alike second →
      first.Agree second (answers first) (others second))
    (program : Program α) (twin : Program β) :
    AnsweredAlike (program.askAll answers) (twin.askAll others) := by
  rw [← Program.askEach_const, ← Program.askEach_const]
  exact answeredAlike_askEach (fun _ => h) program twin

end ControlPlane
