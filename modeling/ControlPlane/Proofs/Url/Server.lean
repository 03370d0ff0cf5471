import ControlPlane.Url
import Mathlib.Tactic.SplitIfs

/-!
# What names the server

The server of a URL is what a request is sent to and signed for: all of a URL but path, query and
fragment. An authority ends at the first slash, so what follows that slash cannot change the server.
Slashes before the authority do not end it: a special scheme skips as many of them as there are.
-/

namespace ControlPlane

/-- The parts of a URL that say who is called. -/
structure Url.Server where
  scheme : String
  username : String
  password : Option String
  host : Option Url.Host
  port : Option Nat
  deriving DecidableEq, Repr

namespace Url

def server (url : Url) : Server :=
  ⟨url.scheme, url.username, url.password, url.host, url.port⟩

/-! ### Texts up to a character that a test does not pass -/

section

variable {test : Char → Bool} {stop : Char}

theorem takeWhile_append_stop (hstop : test stop = false) (front tail : List Char) :
    (front ++ stop :: tail).takeWhile test = front.takeWhile test := by
  induction front with
  | nil => simp [hstop]
  | cons c front ih =>
      rw [List.cons_append, List.takeWhile_cons, List.takeWhile_cons, ih]

theorem dropWhile_append_stop (hstop : test stop = false) (front tail : List Char) :
    (front ++ stop :: tail).dropWhile test = front.dropWhile test ++ stop :: tail := by
  induction front with
  | nil => simp [hstop]
  | cons c front ih =>
      rw [List.cons_append, List.dropWhile_cons, List.dropWhile_cons, ih]
      split <;> rfl

theorem dropEndWhile_append_stop (hstop : test stop = false) (front tail : List Char) :
    Text.dropEndWhile test (front ++ stop :: tail) =
      front ++ stop :: Text.dropEndWhile test tail := by
  have hreverse : (front ++ stop :: tail).reverse = tail.reverse ++ stop :: front.reverse := by
    simp
  rw [Text.dropEndWhile, hreverse, dropWhile_append_stop hstop]
  simp [Text.dropEndWhile]

/-- Dropping at the end keeps every character that the test does not pass. -/
theorem mem_dropEndWhile_iff {c : Char} (hc : test c = false) {text : List Char} :
    c ∈ Text.dropEndWhile test text ↔ c ∈ text := by
  constructor
  · intro hmem
    rw [Text.dropEndWhile, List.mem_reverse] at hmem
    exact List.mem_reverse.mp ((List.dropWhile_suffix test).subset hmem)
  · intro hmem
    obtain ⟨front, tail, rfl⟩ := List.append_of_mem hmem
    rw [dropEndWhile_append_stop hc]
    exact List.mem_append_right front (List.mem_cons_self ..)

end

/-! ### From an authority to its server -/

@[simp]
theorem server_withTail (url : Url) (special : Bool) (text : List Char) :
    (withTail url special text).server = url.server := by
  unfold withTail
  split
  · dsimp only
    split <;> rfl
  · dsimp only
    split <;> rfl

@[simp]
theorem server_withRest (url : Url) (special : Bool) (text : List Char) :
    (withRest url special text).server = url.server := by
  rw [withRest, server_withTail]
  rfl

/-- What follows the first slash after an authority has no part in the server, nor in whether there
is one. -/
theorem server_parseAuthority (scheme : String) (front tail : List Char) :
    (parseAuthority scheme true (front ++ '/' :: tail)).map server =
      (parseAuthority scheme true (front ++ ['/'])).map server := by
  have hstop : (!endsAuthority true '/') = false := rfl
  unfold parseAuthority
  rw [takeWhile_append_stop hstop, dropWhile_append_stop hstop, takeWhile_append_stop hstop,
    dropWhile_append_stop hstop]
  generalize front.takeWhile (fun c => !endsAuthority true c) = authority
  generalize front.dropWhile (fun c => !endsAuthority true c) = rest
  have hrest (after : List Char) : (rest ++ '/' :: after).isEmpty = false := by
    cases rest <;> rfl
  have hthrow (next : PUnit → Except UrlError Url) :
      (throw UrlError.emptyHost >>= next) = .error UrlError.emptyHost := rfl
  simp only [hrest, hthrow, Bool.not_false, and_true, true_and, if_true]
  generalize (cutUserInfo authority).getD ([], authority) = parts
  generalize userInfo parts.1 = user
  generalize cutPort false parts.2 = location
  have hok (url : Url) (one other : List Char) :
      Except.map server (pure (withRest url true one) : Except UrlError Url) =
        Except.map server (pure (withRest url true other)) := by
    simp [Except.map, pure, Except.pure]
  cases Host.parse location.1 with
  | error error => split_ifs <;> rfl
  | ok host =>
      cases location.2 with
      | none => split_ifs <;> first | rfl | exact hok ..
      | some digits =>
          dsimp only [bind, Except.bind]
          cases parsePort scheme (digits.takeWhile fun c => !decide (c = '\\')) with
          | error error => split_ifs <;> rfl
          | ok port => split_ifs <;> first | rfl | exact hok ..

end Url
end ControlPlane
