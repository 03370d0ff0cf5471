import ControlPlane.Proofs.Authenticator.Profile
import ControlPlane.Proofs.Profile.File
import ControlPlane.Surroundings.Wording

/-!
# What a written profile is used for

Of a profile file only the pairs count that belong to the profile which the settings select: its
own, of which the last with a key wins, and for the default profile those before the first header,
where it has none of its own.
-/

namespace ControlPlane.Authenticator

open Profile

variable {answers : Answers} {config : Config} {path name text : String}
  {general own : List (String × String)} {profiles : List Written}

section

variable [Wording]

theorem outcome_useFile {file : File} (hpath : profilePath answers config = .ok path)
    (hfile : answers (.readFile path) = .ok (Bytes.ofString text))
    (hparse : File.parse? text = some file) :
    profile.outcome answers config = (useFile config path file).answerAll answers := by
  have htext : (Program.readText path).answerAll answers = .ok text := by
    rw [Program.readText, Program.answerAll_bind]
    simp only [Program.readFile, Program.query, Program.answerAll, hfile]
    rw [Bytes.decode?_ofString]
    rfl
  unfold outcome profile
  simp only [Program.answerAll_bind]
  rw [← profilePath, hpath]
  simp only [Program.answerAll_bind]
  rw [htext]
  simp only [hparse]

theorem outcome_of_parse? {file : File} (hname : nonEmpty config.profile = some name)
    (hpath : profilePath answers config = .ok path)
    (hfile : answers (.readFile path) = .ok (Bytes.ofString text))
    (hparse : File.parse? text = some file) :
    profile.outcome answers config =
      (useProfile config path name (file.profile name)).answerAll answers := by
  simp only [outcome_useFile hpath hfile hparse, useFile, hname]

omit [Wording] in
theorem auth_of_ofCredential {kind : AuthKind} {credential : String} {error : Error}
    (h : Signer.ofCredential kind credential = .error error) :
    ∃ message, error = .auth message := by
  unfold Signer.ofCredential Signer.authorizationHeader FixedHeader.sensitive at h
  cases hvalue : HeaderValue.ofText? (kind.scheme ++ " " ++ credential) with
  | none =>
      rw [hvalue] at h
      exact ⟨_, (Except.error.inj h).symm⟩
  | some value =>
      rw [hvalue] at h
      cases h

omit [Wording] in
/-- Only a profile without any pair is not found. -/
theorem not_found_useProfile (answers : Answers) (config : Config) (path name : String)
    (pairs : List (String × String)) :
    ((useProfile config path name pairs).answerAll answers).2 =
      .error (.error (.profileNotFound path name)) ↔ pairs = [] := by
  unfold useProfile
  split
  · next hempty => exact iff_of_true rfl (List.isEmpty_iff.mp hempty)
  · next hpairs =>
      refine iff_of_false ?_ fun hempty => hpairs (List.isEmpty_iff.mpr hempty)
      cases nonEmpty (Profile.valueOf pairs "host") with
      | none => nofun
      | some host =>
          obtain ⟨kind, credential⟩ := profileCredential pairs
          dsimp only
          split
          · nofun
          · cases hsigner : Signer.ofCredential kind credential with
            | ok signer => nofun
            | error error =>
                obtain ⟨message, rfl⟩ := auth_of_ofCredential hsigner
                nofun

/-- What comes of the pairs of a profile: its own, and those before the first header if it is the
default one. -/
structure UsesOwn (answers : Answers) (config : Config) (path name : String)
    (general own pairs : List (String × String)) : Prop where
  outcome_eq : profile.outcome answers config =
    (useProfile config path name pairs).answerAll answers
  own_wins : ∀ key value, LastOf own key value → valueOf pairs key = some value
  otherwise : ∀ key value, (∀ pair ∈ own, pair.1 ≠ key) →
    (valueOf pairs key = some value ↔ name = defaultProfile ∧ LastOf general key value)
  not_found_iff : (profile.outcome answers config).2 =
    .error (.error (.profileNotFound path name)) ↔
      own = [] ∧ (name = defaultProfile → general = [])

/-- **A profile is used as it is written.** No other profile of the file has a part in it. -/
theorem usesOwn_of_writes (hwrites : Writes general profiles text)
    (hdistinct : (profiles.map Prod.fst).Nodup) (hname : nonEmpty config.profile = some name)
    (hown : Owns profiles name own) (hpath : profilePath answers config = .ok path)
    (hfile : answers (.readFile path) = .ok (Bytes.ofString text)) :
    UsesOwn answers config path name general own (pairsFor general name own) := by
  obtain ⟨file, hparse, hpairs⟩ := profile_of_writes hwrites hdistinct
  have houtcome := outcome_of_parse? hname hpath hfile hparse
  rw [hpairs name own hown] at houtcome
  constructor
  · exact houtcome
  · intro key value hlast
    rw [pairsFor, valueOf_append, valueOf_eq_some_iff.mpr hlast]
    rfl
  · intro key value hnone
    rw [pairsFor, valueOf_append, valueOf_eq_none_iff.mpr hnone, Option.none_or]
    split
    · next hdefault => simp only [hdefault, true_and, valueOf_eq_some_iff]
    · next hdefault => simp [hdefault, valueOf]
  · rw [houtcome, not_found_useProfile, pairsFor, List.append_eq_nil_iff, and_comm,
      ite_eq_right_iff]

end

/-- A file with pairs before the first header and two profiles. -/
def sharedLines : List Line :=
  [.pair "host" "http://[::1]", .comment ';' " [dev]", .header "dev", .pair "host" "dev = 2",
   .blank " ", .header "DEFAULT", .pair "token" "a;b", .comment '#' "", .pair "token" "[c]#d"]

def sharedAnswers : Answers
  | .readFile _ => .ok (Bytes.ofString (textOf sharedLines))
  | query => Answers.bare query

/-- The default profile takes its host from before the first header, and its last token. -/
theorem usesOwn_of_writes_shared :
    UsesOwn sharedAnswers { profile := some "DEFAULT", configFile := some "/profiles" } "/profiles"
      "DEFAULT" [("host", "http://[::1]")] [("token", "a;b"), ("token", "[c]#d")]
      [("host", "http://[::1]"), ("token", "a;b"), ("token", "[c]#d")] := by
  have hwrites : Writes [("host", "http://[::1]")]
      [("dev", [("host", "dev = 2")]), ("DEFAULT", [("token", "a;b"), ("token", "[c]#d")])]
      (textOf sharedLines) := ⟨sharedLines, rfl, by decide, by decide⟩
  exact usesOwn_of_writes hwrites (by decide) rfl (.inl (by decide)) rfl rfl

end ControlPlane.Authenticator
