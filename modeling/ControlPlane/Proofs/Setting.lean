import ControlPlane.Setting

/-!
# Settings that are given

What `nonEmpty` leaves is a text that is not empty, and it leaves that as it is.
-/

namespace ControlPlane

variable {setting first second : Option String} {text : String}

theorem nonEmpty_eq_some_iff : nonEmpty setting = some text ↔ setting = some text ∧ text ≠ "" := by
  simp [nonEmpty, Option.filter_eq_some_iff]

theorem nonEmpty_eq_none_iff : nonEmpty setting = none ↔ ∀ text, setting = some text → text = "" := by
  simp [nonEmpty, Option.filter_eq_none_iff]

theorem getD_of_nonEmpty (h : nonEmpty setting = some text) : setting.getD "" = text := by
  rw [(nonEmpty_eq_some_iff.mp h).1, Option.getD_some]

@[simp]
theorem nonEmpty_nonEmpty (setting : Option String) :
    nonEmpty (nonEmpty setting) = nonEmpty setting := by
  simp [nonEmpty, Option.filter_filter]

theorem nonEmpty_or (hfirst : nonEmpty first = first) (hsecond : nonEmpty second = second) :
    nonEmpty (first.or second) = first.or second := by
  cases first with
  | none => simpa using hsecond
  | some text => simpa using hfirst

end ControlPlane
