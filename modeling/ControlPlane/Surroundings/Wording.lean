import ControlPlane.Wording

/-!
# Words of our own

They stand in for those of the libraries wherever a program runs.
-/

namespace ControlPlane

instance Wording.plain : Wording where
  json _ octets := "unexpected JSON in " ++ toString octets.length ++ " octets"
  profile text := "broken line in " ++ toString text.length ++ " characters"
  key _ := "not an RSA key"
  signing _ := "not a sound private key"

end ControlPlane
