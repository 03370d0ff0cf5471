import ControlPlane.Base64
import ControlPlane.Header
import ControlPlane.Signer

/-!
# Base 64 in headers

The padded form of the standard alphabet has no control characters, so a basic credential can always
be sent.
-/

namespace ControlPlane.Base64

theorem isAllowed_symbol (bits : Nat) : HeaderValue.isAllowed (symbol standard bits) = true := by
  by_cases hbits : bits < 64
  · exact (by decide : ∀ bits < 64, HeaderValue.isAllowed (symbol standard bits) = true) bits hbits
  · have hslash : symbol standard bits = '/' := by
      unfold symbol standard
      repeat rw [if_neg (by omega)]
    rw [hslash]
    rfl

theorem isAllowed_encode (octets : Bytes) :
    ∀ c ∈ encode standard octets, HeaderValue.isAllowed c = true := by
  have hpadding : ∀ count, ∀ c ∈ padding standard count, HeaderValue.isAllowed c = true := by
    intro count c hc
    obtain rfl := List.eq_of_mem_replicate hc
    rfl
  induction octets using encode.induct with
  | case1 => simp [encode]
  | case2 a => simpa [encode, isAllowed_symbol] using hpadding 2
  | case3 a b => simpa [encode, isAllowed_symbol] using hpadding 1
  | case4 a b c rest ih => simpa [encode, isAllowed_symbol] using ih

theorem all_basicCredential (username password : String) :
    (basicCredential username password).toList.all HeaderValue.isAllowed = true := by
  rw [basicCredential, String.toList_ofList, List.all_eq_true]
  exact isAllowed_encode _

theorem encode_eq_nil {variant : Variant} {octets : Bytes} (h : encode variant octets = []) :
    octets = [] := by
  cases octets using encode.fun_cases_unfolding variant with
  | case1 => rfl
  | _ => cases h

/-- There is at least the colon. -/
theorem isEmpty_basicCredential (username password : String) :
    (basicCredential username password).isEmpty = false := by
  rw [Bool.eq_false_iff, ne_eq, String.isEmpty_iff]
  intro hempty
  have hencoded : encode standard (Bytes.ofString (username ++ ":" ++ password)) = [] := by
    have hchars := congrArg String.toList hempty
    rwa [basicCredential, String.toList_ofList] at hchars
  have htext := Bytes.decode?_ofString (username ++ ":" ++ password)
  rw [encode_eq_nil hencoded] at htext
  have hempty : username ++ ":" ++ password = "" := by
    rw [← Option.some.inj htext]
    rfl
  simpa using congrArg String.toList hempty

end ControlPlane.Base64

namespace ControlPlane.Signer

theorem ofCredential_basic (username password : String) :
    ofCredential .basic (Base64.basicCredential username password) =
      .ok ⟨.basic, .fixed [(.authorization,
        ⟨"Basic " ++ Base64.basicCredential username password, true⟩)]⟩ := by
  have hallowed : ("Basic " ++ Base64.basicCredential username password).toList.all
      HeaderValue.isAllowed = true := by
    rw [String.toList_append, List.all_append, Base64.all_basicCredential]
    rfl
  have hvalue : HeaderValue.ofText? ("Basic " ++ Base64.basicCredential username password) =
      some ⟨"Basic " ++ Base64.basicCredential username password, false⟩ := if_pos hallowed
  have hscheme : AuthKind.basic.scheme ++ " " ++ Base64.basicCredential username password =
      "Basic " ++ Base64.basicCredential username password := by
    rfl
  rw [ofCredential, authorizationHeader, hscheme, FixedHeader.sensitive, hvalue]
  rfl

end ControlPlane.Signer
