import ControlPlane.Proofs.Profile.Lines

/-!
# A profile has the pairs that are written for it

A file that writes profiles under distinct names gives each its own pairs, in the order in which
they stand, whatever is written for the others. The default profile also has the pairs before the
first header; its own come after them and so win.
-/

namespace ControlPlane.Profile

/-- A profile as it is written: its name and its pairs. -/
abbrev Written := String × List (String × String)

/-- Whether a line holds something. -/
def Line.isContent : Line → Bool
  | .blank _ => false
  | .comment _ _ => false
  | _ => true

def pairLines (pairs : List (String × String)) : List Line :=
  pairs.map fun pair => .pair pair.1 pair.2

def profileLines (profile : Written) : List Line :=
  .header profile.1 :: pairLines profile.2

/-- The lines that pairs before the first header and profiles take. -/
def contentLines (general : List (String × String)) (profiles : List Written) : List Line :=
  pairLines general ++ profiles.flatMap profileLines

/-- A text that writes pairs and profiles, with blank lines and comments in between. -/
def Writes (general : List (String × String)) (profiles : List Written) (text : String) : Prop :=
  ∃ lines, text = textOf lines ∧ (∀ line ∈ lines, line.WellFormed) ∧
    lines.filter Line.isContent = contentLines general profiles

/-- The pairs that are written under a name; none if no profile has it. -/
def Owns (profiles : List Written) (name : String) (own : List (String × String)) : Prop :=
  (name, own) ∈ profiles ∨ name ∉ profiles.map Prod.fst ∧ own = []

/-- The pairs that belong to a profile: its own, after those before the first header if it is the
default one. -/
def pairsFor (general : List (String × String)) (name : String) (own : List (String × String)) :
    List (String × String) :=
  (if name = defaultProfile then general else []) ++ own

def sectionOf (profile : Written) : Section :=
  ⟨some profile.1, profile.2⟩

/-! ### Sections -/

theorem foldl_after_filter (lines : List Line) (state : State) :
    lines.foldl State.after state = (lines.filter Line.isContent).foldl State.after state := by
  induction lines generalizing state with
  | nil => rfl
  | cons line lines ih =>
      cases line with
      | blank text => exact ih state
      | comment mark text => exact ih state
      | header name => exact ih _
      | pair key value => exact ih _

theorem foldl_pairLines {pairs : List (String × String)}
    (h : ∀ line ∈ pairLines pairs, line.WellFormed) (current : Section) (others : List Section) :
    (pairLines pairs).foldl State.after ⟨current :: others, []⟩ =
      ⟨{ current with pairs := current.pairs ++ pairs } :: others, []⟩ := by
  induction pairs generalizing current with
  | nil => simp [pairLines]
  | cons pair pairs ih =>
      obtain ⟨hpair, hpairs⟩ := List.forall_mem_cons.mp h
      obtain ⟨hkey, -⟩ : IsKey pair.1 ∧ Plain pair.2.toList := hpair
      have hafter : State.after ⟨current :: others, []⟩ (.pair pair.1 pair.2) =
          ⟨{ current with pairs := current.pairs ++ [pair] } :: others, []⟩ := by
        simp only [State.after, State.withKey, State.addValue, hkey.plain.trimmed.trim_eq,
          String.ofList_toList]
      refine (congrArg ((pairLines pairs).foldl State.after) hafter).trans ((ih hpairs _).trans ?_)
      rw [List.append_assoc]
      rfl

theorem foldl_profileLines {profiles : List Written}
    (h : ∀ line ∈ profiles.flatMap profileLines, line.WellFormed) (sections : List Section) :
    (profiles.flatMap profileLines).foldl State.after ⟨sections, []⟩ =
      ⟨(profiles.map sectionOf).reverse ++ sections, []⟩ := by
  induction profiles generalizing sections with
  | nil => rfl
  | cons profile profiles ih =>
      rw [List.flatMap_cons, List.forall_mem_append, profileLines, List.forall_mem_cons] at h
      obtain ⟨⟨hheader, hpairs⟩, hrest⟩ := h
      have hname : IsName profile.1 := hheader
      have hafter : State.after ⟨sections, []⟩ (.header profile.1) =
          ⟨⟨some profile.1, []⟩ :: sections, []⟩ := by
        simp only [State.after, State.openSection, hname.plain.trimmed.trim_eq,
          String.ofList_toList]
      rw [List.flatMap_cons, List.foldl_append, profileLines, List.foldl_cons, hafter,
        foldl_pairLines hpairs, List.nil_append, ih hrest, List.map_cons, List.reverse_cons,
        List.append_assoc]
      rfl

/-- **A file has the sections that are written.** -/
theorem parse?_of_writes {general : List (String × String)} {profiles : List Written}
    {text : String} (h : Writes general profiles text) :
    File.parse? text = some ⟨⟨none, general⟩ :: profiles.map sectionOf⟩ := by
  obtain ⟨lines, rfl, hwell, hcontent⟩ := h
  have hlines : ∀ line ∈ contentLines general profiles, line.WellFormed := by
    intro line hline
    rw [← hcontent] at hline
    exact hwell line (List.mem_of_mem_filter hline)
  obtain ⟨hgeneral, hprofiles⟩ := List.forall_mem_append.mp hlines
  rw [parse?_textOf hwell, foldl_after_filter, hcontent, contentLines, List.foldl_append,
    foldl_pairLines hgeneral, foldl_profileLines hprofiles]
  simp [State.file]

/-! ### Profiles -/

theorem find?_sections {profiles : List Written} (hdistinct : (profiles.map Prod.fst).Nodup)
    {name : String} {own : List (String × String)} (h : Owns profiles name own) :
    (((profiles.map sectionOf).find? fun entry => entry.name = some name).map Section.pairs).getD
      [] = own := by
  rcases h with hmem | ⟨hnone, rfl⟩
  · obtain ⟨front, back, rfl⟩ := List.append_of_mem hmem
    rw [List.map_append, List.map_cons, List.nodup_append] at hdistinct
    have hfront : ∀ entry ∈ front.map sectionOf, ¬ (entry.name = some name : Bool) := by
      intro entry hentry heq
      obtain ⟨profile, hprofile, rfl⟩ := List.mem_map.mp hentry
      exact hdistinct.2.2 profile.1 (List.mem_map_of_mem hprofile) name (List.mem_cons_self ..)
        (Option.some.inj (of_decide_eq_true heq))
    rw [List.map_append, List.map_cons, List.find?_append, List.find?_eq_none.mpr hfront,
      Option.none_or, List.find?_cons_of_pos (by simp [sectionOf])]
    rfl
  · rw [List.find?_eq_none.mpr]
    · rfl
    · intro entry hentry heq
      obtain ⟨profile, hprofile, rfl⟩ := List.mem_map.mp hentry
      exact hnone (List.mem_map.mpr ⟨profile, hprofile,
        Option.some.inj (of_decide_eq_true heq)⟩)

/-- **Profiles do not interfere.** -/
theorem profile_of_writes {general : List (String × String)} {profiles : List Written}
    {text : String} (h : Writes general profiles text)
    (hdistinct : (profiles.map Prod.fst).Nodup) :
    ∃ file, File.parse? text = some file ∧
      ∀ name own, Owns profiles name own → file.profile name = pairsFor general name own := by
  refine ⟨_, parse?_of_writes h, fun name own hown => ?_⟩
  have hgeneral : File.pairsOf ⟨⟨none, general⟩ :: profiles.map sectionOf⟩ none = general := rfl
  have hsection : File.pairsOf ⟨⟨none, general⟩ :: profiles.map sectionOf⟩ (some name) = own :=
    find?_sections hdistinct hown
  rw [File.profile, pairsFor, hgeneral, hsection]

/-! ### Values -/

/-- A pair after which its key does not stand again. -/
def LastOf (pairs : List (String × String)) (key value : String) : Prop :=
  ∃ front back, pairs = front ++ (key, value) :: back ∧ ∀ pair ∈ back, pair.1 ≠ key

/-- The last pair with a key wins. -/
theorem valueOf_eq_some_iff {pairs : List (String × String)} {key value : String} :
    valueOf pairs key = some value ↔ LastOf pairs key value := by
  rw [valueOf, Option.map_eq_some_iff]
  constructor
  · rintro ⟨⟨found, value⟩, hfound, rfl⟩
    obtain ⟨hkey, front, back, hpairs, hfront⟩ := List.find?_eq_some_iff_append.mp hfound
    obtain rfl := of_decide_eq_true hkey
    refine ⟨back.reverse, front.reverse, ?_, fun pair hpair => ?_⟩
    · rw [← List.reverse_reverse pairs, hpairs]
      simp
    · simpa using hfront pair (List.mem_reverse.mp hpair)
  · rintro ⟨front, back, rfl, hback⟩
    refine ⟨(key, value), ?_, rfl⟩
    rw [List.find?_eq_some_iff_append]
    refine ⟨by simp, back.reverse, front.reverse, by simp, fun pair hpair => ?_⟩
    simpa using hback pair (List.mem_reverse.mp hpair)

theorem valueOf_append (front back : List (String × String)) (key : String) :
    valueOf (front ++ back) key = (valueOf back key).or (valueOf front key) := by
  rw [valueOf, List.reverse_append, List.find?_append, Option.map_or]
  rfl

theorem valueOf_eq_none_iff {pairs : List (String × String)} {key : String} :
    valueOf pairs key = none ↔ ∀ pair ∈ pairs, pair.1 ≠ key := by
  simp [valueOf]

end ControlPlane.Profile
