/-!
# Settings that may be empty

An empty text counts as a setting that was not given.
-/

namespace ControlPlane

/-- The text of a setting, unless it is absent or empty. -/
def nonEmpty (setting : Option String) : Option String :=
  setting.filter fun text => !text.isEmpty

/-- A text as a setting. -/
def settingOf (text : String) : Option String :=
  nonEmpty (some text)

end ControlPlane
