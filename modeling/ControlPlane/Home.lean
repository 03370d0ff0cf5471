import ControlPlane.Program

/-!
# Paths in the home directory

A path that is `~` or starts with `~/` stands for one in the home directory.
-/

namespace ControlPlane.Home

/-- Joins two paths: an absolute second one stands for itself. -/
def joinPath (left right : String) : String :=
  if right.toList.head? = some '/' then right
  else if left.isEmpty || left.toList.getLast? = some '/' then left ++ right
  else left ++ "/" ++ right

/-- What follows a leading `~`, if there is one. -/
def afterTilde (path : String) : Option String :=
  match path.toList with
  | ['~'] => some ""
  | '~' :: '/' :: rest => some (String.ofList rest)
  | _ => none

/-- The path that a text stands for. -/
def expand (home : Option String) (path : String) : Except Error String :=
  match afterTilde path with
  | none => .ok path
  | some rest =>
    match home with
    | none => .error (.config ("cannot expand " ++ path ++ ": home directory is unknown"))
    | some home => .ok (joinPath home rest)

/-- The path that a text stands for, with the home directory asked for only if it is needed. -/
def expandPath (path : String) : Program (Except Error String) :=
  match afterTilde path with
  | none => return .ok path
  | some _ => do return expand (← Program.homeDirectory) path

end ControlPlane.Home
