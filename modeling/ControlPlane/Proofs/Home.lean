import ControlPlane.Proofs.Authenticator.Asks
import ControlPlane.Proofs.Path

/-!
# Paths that are given in the home directory

A text that is `~`, or starts with `~/`, is joined to the home directory. It stays below it unless
what follows the tilde starts with another slash: that is an absolute path, and joining leaves
nothing of the home directory. The profile file and the file of a key are read where their texts lead
from the home directory that was found in the same run.
-/

namespace ControlPlane.Home

open ControlPlane.Path Program

variable {α : Type} {text rest home : String} {trace : List Asked}

/-- The text names what the rest leads to from the home directory. -/
def Tilde (text rest : String) : Prop :=
  (text = "~" ∧ rest = "") ∨ text = "~/" ++ rest

theorem afterTilde_eq_some_iff : afterTilde text = some rest ↔ Tilde text rest := by
  constructor
  · intro h
    unfold afterTilde at h
    split at h
    · next hlist => exact .inl ⟨String.toList_inj.mp hlist, (Option.some.inj h).symm⟩
    · next hlist =>
        obtain rfl := Option.some.inj h
        refine .inr (String.toList_inj.mp ?_)
        rw [hlist, String.toList_append]
        exact congrArg ("~/".toList ++ ·) String.toList_ofList.symm
    · cases h
  · rintro (⟨rfl, rfl⟩ | rfl)
    · rfl
    · have hlist : ("~/" ++ rest).toList = '~' :: '/' :: rest.toList := String.toList_append ..
      unfold afterTilde
      rw [hlist]
      exact congrArg some String.ofList_toList

theorem expand_of_tilde (h : Tilde text rest) (home : String) :
    expand (some home) text = .ok (joinPath home rest) := by
  rw [expand, afterTilde_eq_some_iff.mpr h]

theorem expand_of_not_tilde (h : ∀ rest, ¬ Tilde text rest) (home : Option String) :
    expand home text = .ok text := by
  have hnone : afterTilde text = none :=
    Option.eq_none_iff_forall_ne_some.mpr fun rest hrest => h rest (afterTilde_eq_some_iff.mp hrest)
  rw [expand, hnone]

/-! ### Where a text leads -/

/-- What a home directory and the rest of a text are joined to. -/
structure Joined (home rest path : String) : Prop where
  startsWith_iff : StartsWith path home ↔ ¬ IsAbsolute rest ∨ StartsWith rest home
  /-- The home directory, and then what the rest is inside a path. -/
  components_iff : home ≠ "" →
    (components path = components home ++ steps rest.toList ↔
      ¬ IsAbsolute rest ∨ components home = [.root])
  /-- The rest is inside a path what it is alone unless it starts with a slash or a `.`. -/
  alone_iff : components path = components home ++ components rest ↔
    home = "" ∨ lead rest.toList = []
  absolute : IsAbsolute rest → path = rest

theorem joined_of_isAbsolute (home : String) (h : IsAbsolute rest) : Joined home rest rest where
  startsWith_iff := by simp [h]
  components_iff _ := by
    have hrest : components rest = [.root] ++ steps rest.toList :=
      congrArg (· ++ steps rest.toList) (lead_of_isAbsolute h)
    rw [hrest, List.append_left_inj, eq_comm]
    simp [h]
  alone_iff := by
    rw [List.self_eq_append_left, components_eq_nil_iff, lead_of_isAbsolute h]
    simp
  absolute _ := rfl

theorem joined_of_not_isAbsolute (home : String) (h : ¬ IsAbsolute rest) :
    Joined home rest (joinPath home rest) := by
  by_cases hhome : home = ""
  · subst hhome
    rw [joinPath_empty]
    exact
      { startsWith_iff := iff_of_true (List.nil_prefix) (.inl h)
        components_iff := fun hne => absurd rfl hne
        alone_iff := iff_of_true rfl (.inl rfl)
        absolute := fun habsolute => absurd habsolute h }
  · have hjoined := components_joinPath hhome h
    constructor
    case startsWith_iff =>
      refine iff_of_true ?_ (.inl h)
      rw [StartsWith, hjoined]
      exact List.prefix_append ..
    case components_iff => exact fun _ => iff_of_true hjoined (.inl h)
    case alone_iff =>
      have halone : components rest = lead rest.toList ++ steps rest.toList := rfl
      rw [hjoined, halone, List.append_right_inj, List.self_eq_append_left]
      simp [hhome]
    case absolute => exact fun habsolute => absurd habsolute h

theorem joined_joinPath (home rest : String) : Joined home rest (joinPath home rest) := by
  by_cases h : IsAbsolute rest
  · rw [joinPath_of_isAbsolute h]
    exact joined_of_isAbsolute home h
  · exact joined_of_not_isAbsolute home h

/-! ### Files that are looked for -/

/-- Every file that is read is the one that the text leads to from the home directory, as it was
found. -/
def Finds (text rest : String) (trace : List Asked) : Prop :=
  ∀ path answer, ⟨.readFile path, answer⟩ ∈ trace →
    ∃ home, ⟨.homeDirectory, some home⟩ ∈ trace ∧ expand (some home) text = .ok path ∧
      Joined home rest path

theorem runs_expandPath (h : Tilde text rest) {found : Except Error String}
    (hrun : (expandPath text).Runs trace found) :
    ∃ home, trace = [⟨.homeDirectory, home⟩] ∧ found = expand home text := by
  unfold expandPath at hrun
  rw [afterTilde_eq_some_iff.mpr h] at hrun
  obtain ⟨first, home, second, rfl, hfirst, hdone⟩ := runs_bind_iff.mp hrun
  obtain ⟨rfl, rfl⟩ := runs_done_iff.mp hdone
  rw [homeDirectory, runs_query_iff] at hfirst
  exact ⟨home, by rw [hfirst, List.append_nil], rfl⟩

theorem Reads.finds {others : Query → Prop} {program : Program α} (h : Reads others text program)
    (hothers : ∀ path, ¬ others (.readFile path)) (htilde : Tilde text rest) {result : α}
    (hrun : program.Runs trace result) : Finds text rest trace := by
  obtain ⟨next, rfl, herror, hok⟩ := h
  obtain ⟨first, found, second, rfl, hfirst, hsecond⟩ := runs_bind_iff.mp hrun
  obtain ⟨home, rfl, rfl⟩ := runs_expandPath htilde hfirst
  intro path answer hmem
  rw [List.singleton_append, List.mem_cons] at hmem
  have hread : ⟨.readFile path, answer⟩ ∈ second := hmem.resolve_left nofun
  cases home with
  | none =>
      have hunknown : expand none text =
          .error (.config ("cannot expand " ++ text ++ ": home directory is unknown")) := by
        rw [expand, afterTilde_eq_some_iff.mpr htilde]
      rw [hunknown] at hsecond
      have hother : others (.readFile path) := hsecond.asks (herror _) _ hread
      exact absurd hother (hothers path)
  | some home =>
      rw [expand_of_tilde htilde] at hsecond
      rcases hsecond.asks (hok _) _ hread with hother | hquery
      · exact absurd hother (hothers path)
      · obtain rfl : path = joinPath home rest := Query.readFile.inj hquery
        exact ⟨home, List.mem_cons_self, expand_of_tilde htilde home, joined_joinPath home rest⟩

variable [Wording]

/-- What a text stands for, and which files it has looked for. -/
structure Expansion (text : String) : Prop where
  joined : ∀ rest, Tilde text rest → ∀ home,
    ∃ path, expand (some home) text = .ok path ∧ Joined home rest path
  unchanged : (∀ rest, ¬ Tilde text rest) → ∀ home, expand home text = .ok text
  profile : ∀ rest, Tilde text rest → ∀ config trace result,
    (nonEmpty config.configFile).getD defaultProfileFile = text →
      (Authenticator.profile.resolve config).Runs trace result → Finds text rest trace
  key : ∀ rest, Tilde text rest → ∀ trace result,
    (ServiceAccountKey.load text).Runs trace result → Finds text rest trace

/-- **What a tilde stands for.** The path starts with the home directory exactly if the rest is not
absolute, or would do so by itself. -/
theorem tilde_joins_home (text : String) : Expansion text where
  joined rest h home := ⟨_, expand_of_tilde h home, joined_joinPath home rest⟩
  unchanged := expand_of_not_tilde
  profile := by
    rintro rest h config trace result rfl hrun
    exact (Authenticator.reads_profile config).finds (fun _ => id) h hrun
  key rest h trace result hrun := by
    rcases Authenticator.reads_load text with ⟨key, hdone⟩ | hreads
    · rw [hdone] at hrun
      obtain ⟨rfl, -⟩ := runs_done_iff.mp hrun
      nofun
    · exact hreads.finds (fun _ => id) h hrun

omit [Wording] in
/-- Two slashes after the tilde leave the home directory. -/
theorem exists_not_startsWith :
    ¬ ∀ text rest home, Tilde text rest →
      ∃ path, expand (some home) text = .ok path ∧ StartsWith path home := by
  intro h
  obtain ⟨path, hpath, hstarts⟩ := h "~//x" "/x" "home" (.inr rfl)
  obtain rfl : path = "/x" := (Except.ok.inj hpath).symm
  exact absurd hstarts (by decide)

end ControlPlane.Home
