import ControlPlane.Text.Composition
import ControlPlane.Text.Ranges
import ControlPlane.Url.Domain.Joiner.Table
import ControlPlane.Url.Domain.Mapping

/-!
# Joiners in domain names

Two invisible characters make letters join or keep them apart. In a domain name they may stand only
where they change what is seen: after the sign that takes the vowel from a consonant, and between
two letters that would join.
-/

namespace ControlPlane.Url.Domain

/-- On which sides a letter joins its neighbours. -/
inductive Joining where
  | next
  | previous
  | both
  | neither
  /-- The letters on both sides join each other. -/
  | transparent
  deriving DecidableEq, Repr

/-- Runs of letters that join. -/
def joinings : List Text.Run :=
  Text.runs joiningLines

/-- How a character joins. One mark counts as a letter otherwise. -/
def joiningOf (code : Nat) : Joining :=
  if Text.isNonspacingMark code || code = 0x1E94B then .transparent
  else match (Text.runOf? joinings code).map Text.Run.value with
    | none => .neither
    | some 0 => .next
    | some 1 => .previous
    | some _ => .both

/-- The combining class of signs that take the vowel from a consonant. -/
def vowelKiller : Nat := 9

/-- Whether a joiner may stand between two texts, the first of them last character first. -/
def joinerFits (code : Nat) (before after : List Nat) : Bool :=
  let neighbour (text : List Nat) : Joining :=
    ((text.map joiningOf).dropWhile (· = .transparent)).head?.getD .neither
  before.head?.any (fun last => Text.combiningClass last = vowelKiller) ||
    (code = nonJoiner && [Joining.next, .both].contains (neighbour before) &&
      [Joining.previous, .both].contains (neighbour after))

/-- Whether all joiners of a label fit, after a text given last character first. -/
def joinersFit (before : List Nat) : List Nat → Bool
  | [] => true
  | code :: after =>
    ((code ≠ nonJoiner && code ≠ joiner) || joinerFits code before after) &&
      joinersFit (code :: before) after

end ControlPlane.Url.Domain
