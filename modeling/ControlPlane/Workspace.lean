import ControlPlane.Kind
import ControlPlane.Text.Blank
import ControlPlane.Text.Search

/-!
# Workspace hosts

How a host that a user wrote becomes the start of a URL, and what its name says about the surface
and the cloud behind it.
-/

namespace ControlPlane.Workspace

def startsWith (start : String) (text : String) : Bool :=
  start.toList.isPrefixOf text.toList

/-- Puts `https://` before a host without a scheme. -/
def normalizeHost (host : String) : String :=
  if host.isEmpty || startsWith "https://" host || startsWith "http://" host then host
  else "https://" ++ host

/-- Drops a start as often as it stands there. -/
def dropStarts (start text : List Char) : List Char :=
  if _h : start ≠ [] ∧ start.isPrefixOf text = true then
    dropStarts start (text.drop start.length)
  else text
termination_by text.length
decreasing_by
  have hstart : 0 < start.length := List.length_pos_iff.2 _h.1
  have hle := (List.isPrefixOf_iff_prefix.1 _h.2).length_le
  simp only [List.length_drop]
  omega

/-- Whether a host serves the accounts surface. -/
def isAccountsHost (host : String) : Bool :=
  let bare := dropStarts "http://".toList (dropStarts "https://".toList host.toList)
  "accounts.".toList.isPrefixOf bare

/-- The cloud behind a host; a resource id speaks for itself. -/
def cloudOf (host : String) (hasResourceId : Bool) : Cloud :=
  if hasResourceId || Text.occursIn ".azuredatabricks.net".toList host.toList then .azure
  else if Text.occursIn ".gcp.databricks.com".toList host.toList then .gcp
  else .aws

/-- Joins a host and the segments of a path with one slash between them. -/
def formatUrl (host : String) (segments : List String) : String :=
  let path := (segments.flatMap String.toList).dropWhile (· = '/')
  String.ofList (Text.dropEndWhile (· = '/') host.toList ++ '/' :: path)

end ControlPlane.Workspace
