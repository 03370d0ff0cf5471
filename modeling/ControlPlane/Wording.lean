import ControlPlane.Json.Record

/-!
# The words of libraries

What a library says of something that it cannot read goes into an error as it is. The libraries are
no part of this development, so their words are a parameter of whatever may fail with them. They
depend on what was to be read, and nothing else is known of them.
-/

namespace ControlPlane

/-- How libraries word what they refuse. -/
class Wording where
  /-- Octets that do not spell what a decoder reads. -/
  json {α : Type} (decoder : Json.Decoder α) (octets : Bytes) : String
  /-- A text that is no profile file. -/
  profile (text : String) : String
  /-- A text that holds no private key. -/
  key (text : String) : String
  /-- The encoding of a private key that does not sign. -/
  signing (encoding : Bytes) : String

end ControlPlane
