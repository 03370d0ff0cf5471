import ControlPlane.Home
import ControlPlane.Text.Table

/-!
# Components of paths

A path is read as its components. Slashes only separate them, however many there are, but a slash in
front stands for the root. A `.` is a component at the start of a path and nowhere else, and `..` is
one wherever it stands. What a text adds to a path that it is joined to are the components it has
inside a path, unless it is absolute: then it stands for itself.
-/

namespace ControlPlane.Path

inductive Component where
  | root
  | here
  | up
  | name (text : String)
  deriving DecidableEq, Repr

open Component Home

variable {left right : String} {front tail : List Char}

/-- The component that stands between two slashes, if there is one. -/
def step? (part : List Char) : Option Component :=
  if part = [] ∨ part = ['.'] then none
  else if part = ['.', '.'] then some up
  else some (name (String.ofList part))

/-- The components that a text has inside a path. -/
def steps (text : List Char) : List Component :=
  (Text.splitOn '/' text).filterMap step?

/-- What a text has besides at the start of a path. -/
def lead (text : List Char) : List Component :=
  if text.head? = some '/' then [root]
  else if (Text.splitOn '/' text).head? = some ['.'] then [here]
  else []

def componentsOf (text : List Char) : List Component :=
  lead text ++ steps text

def components (path : String) : List Component :=
  componentsOf path.toList

def IsAbsolute (path : String) : Prop :=
  path.toList.head? = some '/'

/-- A path is the other or lies below it, by its components. -/
def StartsWith (path base : String) : Prop :=
  components base <+: components path

instance (path base : String) : Decidable (StartsWith path base) :=
  inferInstanceAs (Decidable (_ <+: _))

/-! ### Slashes -/

theorem steps_append (front tail : List Char) :
    steps (front ++ '/' :: tail) = steps front ++ steps tail := by
  simp only [steps, Text.splitOn_append, List.filterMap_append]

theorem lead_append (hfront : front ≠ []) : lead (front ++ '/' :: tail) = lead front := by
  obtain ⟨part, parts, hparts⟩ := List.exists_cons_of_ne_nil (Text.splitOn_ne_nil '/' front)
  obtain ⟨c, front, rfl⟩ := List.exists_cons_of_ne_nil hfront
  unfold lead
  rw [Text.splitOn_append, hparts]
  rfl

theorem componentsOf_append (hfront : front ≠ []) :
    componentsOf (front ++ '/' :: tail) = componentsOf front ++ steps tail := by
  simp only [componentsOf, lead_append hfront, steps_append, List.append_assoc]

/-- A slash at the end of a path adds nothing. -/
theorem componentsOf_append_slash (front tail : List Char) :
    componentsOf (front ++ '/' :: tail) = componentsOf (front ++ ['/']) ++ steps tail := by
  by_cases hfront : front = []
  · subst hfront
    change [root] ++ steps ([] ++ '/' :: tail) = _
    rw [steps_append]
    rfl
  · rw [componentsOf_append hfront, componentsOf_append hfront]
    exact congrArg (· ++ steps tail) (List.append_nil _).symm

theorem lead_of_isAbsolute (h : IsAbsolute left) : lead left.toList = [root] :=
  if_pos h

theorem componentsOf_ne_nil {text : List Char} (htext : text ≠ []) : componentsOf text ≠ [] := by
  obtain ⟨c, rest, rfl⟩ := List.exists_cons_of_ne_nil htext
  obtain ⟨part, parts, hparts⟩ := List.exists_cons_of_ne_nil (Text.splitOn_ne_nil '/' rest)
  by_cases hslash : c = '/'
  · simp [componentsOf, lead, hslash]
  · have hfirst : Text.splitOn '/' (c :: rest) = (c :: part) :: parts := by
      rw [Text.splitOn, if_neg hslash, hparts]
    by_cases hdot : c :: part = ['.']
    · simp [componentsOf, lead, hfirst, hslash, hdot]
    · have hstep : (step? (c :: part)).isSome := by
        unfold step?
        rw [if_neg (by simp [hdot])]
        split <;> rfl
      obtain ⟨component, hcomponent⟩ := Option.isSome_iff_exists.mp hstep
      rw [componentsOf, steps, hfirst, List.filterMap_cons_some hcomponent]
      exact List.append_ne_nil_of_right_ne_nil _ (List.cons_ne_nil _ _)

theorem toList_ne_nil (hleft : left ≠ "") : left.toList ≠ [] :=
  fun h => hleft (String.toList_inj.mp h)

/-- Only the empty text has no components. -/
theorem components_eq_nil_iff : components left = [] ↔ left = "" := by
  constructor
  · intro h
    refine Decidable.byContradiction fun hleft => ?_
    exact componentsOf_ne_nil (toList_ne_nil hleft) h
  · rintro rfl
    rfl

/-! ### Joining -/

theorem joinPath_of_isAbsolute (h : IsAbsolute right) : joinPath left right = right :=
  if_pos h

theorem joinPath_empty (right : String) : joinPath "" right = right := by
  unfold joinPath
  split
  · rfl
  · exact String.empty_append

/-- **A text that is not absolute goes on where the path ends.** -/
theorem components_joinPath (hleft : left ≠ "") (hright : ¬ IsAbsolute right) :
    components (joinPath left right) = components left ++ steps right.toList := by
  unfold IsAbsolute at hright
  unfold joinPath
  rw [if_neg hright]
  by_cases hend : left.toList.getLast? = some '/'
  · obtain ⟨front, hfront⟩ := List.getLast?_eq_some_iff.mp hend
    have hlist : (left ++ right).toList = front ++ '/' :: right.toList := by
      rw [String.toList_append, hfront, List.append_assoc, List.singleton_append]
    rw [if_pos (by simp [hend]), components, hlist, componentsOf_append_slash, ← hfront]
    rfl
  · have hlist : (left ++ "/" ++ right).toList = left.toList ++ '/' :: right.toList := by
      rw [String.toList_append, String.toList_append, List.append_assoc]
      rfl
    rw [if_neg (by simp [hend, hleft]), components, hlist, componentsOf_append (toList_ne_nil hleft)]
    rfl

/-- A `.` counts at the start of a path only. -/
example : components (joinPath "./a//" "./b/..") = [here, name "a", name "b", up] := by decide

end ControlPlane.Path
