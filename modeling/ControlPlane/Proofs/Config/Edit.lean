import ControlPlane.Config
import ControlPlane.Proofs.Json.Layout
import ControlPlane.Proofs.Json.Record

/-!
# Edited objects

An object may be edited before it is read: members are removed, moved, or added under other names,
and a setting may be cleared, which leaves `null` in its place. A record reads what is left, field
by field, and keeps what it started with for the rest.
-/

namespace ControlPlane.Json

/-- What becomes of a member of an object. -/
inductive Fate where
  | kept
  /-- The member holds `null` in place of a setting. -/
  | cleared
  | removed
  deriving DecidableEq

def Fate.pick {α : Type} (value default : α) : Fate → α
  | .kept => value
  | _ => default

/-- The tree is read as the value. -/
def StandsFor (value : Value) (tree : Tree) : Prop :=
  Decoder.value tree = some value

/-- How a tree stands for a value, which may depend on the name under which both are found. -/
abbrev Standing := String → Value → Tree → Prop

def Remains (fate : String → Fate) (stands : Standing) : Standing :=
  fun name value tree =>
    match fate name with
    | .kept => stands name value tree
    | .cleared => tree = .null ∧ ∃ setting, value = settingValue setting
    | .removed => False

/-- An object after an edit. Members may have been moved, and others added that have names of their
own and hold anything. -/
inductive Edited (fate : String → Fate) (stands : Standing) : Value → Tree → Prop where
  | intro {old : List (String × Value)} {members known unknown : List (List Piece × Tree)}
      (moved : members.Perm (unknown ++ known))
      (stay : List.Forall₂ (fun entry member =>
          text? member.1 = some entry.1 ∧ Remains fate stands entry.1 entry.2 member.2)
        (old.filter fun entry => fate entry.1 ≠ .removed) known)
      (added : ∀ member ∈ unknown, ∃ key, text? member.1 = some key ∧ key ∉ old.map Prod.fst) :
      Edited fate stands (.object old) (.object members)

/-- What stands for a member of an object: for an object its edit, with a fate for each path. -/
def StandsWithin (fates : List String → Fate) : Standing :=
  fun name value tree =>
    match value with
    | .object _ => Edited (fun inner => fates [name, inner]) (fun _ => StandsFor) value tree
    | _ => StandsFor value tree

/-- An object and the objects in it after an edit, with a fate for each path. -/
def EditedWithin (fates : List String → Fate) : Value → Tree → Prop :=
  Edited (fun name => fates [name]) (StandsWithin fates)

/-! ### Edits of written objects -/

/-- An edit of the members that are written, seen in what is read. -/
theorem edited_of_perm {fate : String → Fate} {stands : Standing}
    {old members known unknown : List (String × Value)} (hmoved : members.Perm (unknown ++ known))
    (hstay : List.Forall₂ (fun entry member =>
        member.1 = entry.1 ∧ Remains fate stands entry.1 entry.2 member.2.tree)
      (old.filter fun entry => fate entry.1 ≠ .removed) known)
    (hadded : ∀ member ∈ unknown, member.1 ∉ old.map Prod.fst) :
    Edited fate stands (.object old) (Value.object members).tree := by
  rw [Value.tree, Value.memberTrees_eq]
  have hread := hmoved.map fun member => (piecesOf member.1, member.2.tree)
  rw [List.map_append] at hread
  refine .intro hread ?_ ?_
  · rw [List.forall₂_map_right_iff]
    refine hstay.imp fun entry member h => ⟨?_, h.2⟩
    rw [← h.1]
    exact text?_piecesOf member.1
  · intro member hmem
    obtain ⟨written, hwritten, rfl⟩ := List.mem_map.mp hmem
    exact ⟨written.1, text?_piecesOf written.1, hadded written hwritten⟩

theorem edited_tree {stands : Standing} {members : List (String × Value)}
    (h : ∀ member ∈ members, stands member.1 member.2 member.2.tree) :
    Edited (fun _ => .kept) stands (.object members) (Value.object members).tree := by
  have hall : members.filter (fun _ => decide (Fate.kept ≠ .removed)) = members :=
    List.filter_eq_self.mpr fun _ _ => rfl
  have hmoved : members.Perm ([] ++ members) := .refl members
  refine edited_of_perm hmoved ?_ nofun
  rw [hall, List.forall₂_same]
  exact fun member hmem => ⟨rfl, h member hmem⟩

theorem standsFor_setting (setting : Option String) :
    StandsFor (settingValue setting) (settingValue setting).tree := by
  cases setting with
  | none => rfl
  | some text => exact congrArg (Option.map Value.string) (text?_piecesOf text)

theorem standsFor_bool (value : Bool) : StandsFor (.bool value) (Value.bool value).tree :=
  rfl

theorem standsFor_natural {value : Nat} (h : value < 1 <<< 64) :
    StandsFor (.number (.natural value)) (Value.number (.natural value)).tree :=
  congrArg (Option.map Value.number) (number?_natural h)

/-! ### Reading an edited object -/

/-- A member of a written object, and what it writes to a record that reads it. -/
structure Entry (ρ : Type) where
  name : String
  value : Value
  set : ρ → ρ

namespace Entry

variable {ρ : Type}

def member (entry : Entry ρ) : String × Value :=
  (entry.name, entry.value)

/-- A field reads what is left of a member as its entry says. -/
def ReadBy (fate : String → Fate) (stands : Standing) (field : Json.Field ρ) (entry : Entry ρ) :
    Prop :=
  field.name = entry.name ∧
    ∀ tree, Remains fate stands entry.name entry.value tree → field.read tree = some entry.set

/-- What entries write to a record, where a member that was removed writes nothing. -/
def apply (fate : String → Fate) (entries : List (Entry ρ)) (record : ρ) : ρ :=
  entries.foldl (fun record entry => if fate entry.name ≠ .removed then entry.set record else record)
    record

/-- Where what is removed would write what is there already, it may as well be written. -/
theorem apply_eq_foldl {fate : String → Fate} {entries : List (Entry ρ)} {record : ρ}
    (hcomm : entries.Pairwise fun one other => ∀ record,
      one.set (other.set record) = other.set (one.set record))
    (hremoved : ∀ entry ∈ entries, fate entry.name = .removed → entry.set record = record) :
    apply fate entries record = entries.foldl (fun record entry => entry.set record) record := by
  induction entries generalizing record with
  | nil => rfl
  | cons entry entries ih =>
      obtain ⟨hentry, hentries⟩ := List.forall_mem_cons.mp hremoved
      obtain ⟨hfirst, hothers⟩ := List.pairwise_cons.mp hcomm
      rw [apply, List.foldl_cons, List.foldl_cons]
      by_cases hfate : fate entry.name = .removed
      · rw [if_neg (not_not.mpr hfate), hentry hfate]
        exact ih hothers hentries
      · rw [if_pos hfate]
        refine ih hothers fun other hmem hother => ?_
        rw [← hfirst other hmem, hentries other hmem hother]

end Entry

namespace Schema

variable {ρ : Type} {schema : Schema ρ} {fate : String → Fate} {stands : Standing}
  {entries : List (Entry ρ)}

theorem names_of_readBy {fields : List (Json.Field ρ)}
    (h : List.Forall₂ (Entry.ReadBy fate stands) fields entries) :
    entries.map Entry.name = fields.map Field.name := by
  induction h with
  | nil => rfl
  | cons hentry _ ih => rw [List.map_cons, List.map_cons, hentry.1, ih]

theorem exists_readBy {fields : List (Json.Field ρ)}
    (h : List.Forall₂ (Entry.ReadBy fate stands) fields entries) :
    ∀ entry ∈ entries, ∃ field ∈ fields, entry.ReadBy fate stands field := by
  induction h with
  | nil => nofun
  | cons hentry _ ih =>
      refine List.forall_mem_cons.mpr ⟨⟨_, List.mem_cons_self .., hentry⟩, fun entry hmem => ?_⟩
      obtain ⟨field, hfield, hreads⟩ := ih entry hmem
      exact ⟨field, List.mem_cons_of_mem _ hfield, hreads⟩

theorem reading?_of_new (hread : List.Forall₂ (Entry.ReadBy fate stands) schema.fields entries)
    {member : List Piece × Tree} {key : String} (hkey : text? member.1 = some key)
    (hnew : key ∉ entries.map Entry.name) : schema.reading? member = some none := by
  have hfind : schema.find? key = none := by
    rw [names_of_readBy hread] at hnew
    exact List.find?_eq_none.mpr fun field hfield hname =>
      hnew (List.mem_map.mpr ⟨field, hfield, of_decide_eq_true hname⟩)
  rw [reading?, hkey, Option.bind_some, hfind]

theorem Apart.reading?_of_remains (hapart : schema.Apart)
    (hread : List.Forall₂ (Entry.ReadBy fate stands) schema.fields entries) {entry : Entry ρ}
    (hmem : entry ∈ entries) {member : List Piece × Tree} (hkey : text? member.1 = some entry.name)
    (hremains : Remains fate stands entry.name entry.value member.2) :
    schema.reading? member = some (some (entry.name, entry.set)) := by
  obtain ⟨field, hfield, hname, hreads⟩ := exists_readBy hread entry hmem
  have hfind := hapart.find?_name hfield
  rw [hname] at hfind
  rw [reading?, hkey, Option.bind_some, hfind]
  exact congrArg (Option.map _) (hreads _ hremains)

/-- **A record reads what an edit leaves of an object.** -/
theorem Apart.decoder_edited (hapart : schema.Apart)
    (hread : List.Forall₂ (Entry.ReadBy fate stands) schema.fields entries) {tree : Tree}
    (h : Edited fate stands (.object (entries.map Entry.member)) tree) (initial : ρ) :
    schema.decoder initial tree = some (Entry.apply fate entries initial) := by
  cases h with
  | @intro _ members known unknown moved stay added =>
      let left := entries.filter fun entry => fate entry.name ≠ .removed
      have hskip : ∀ member ∈ unknown, schema.reading? member = some none := by
        intro member hmem
        obtain ⟨key, hkey, hnew⟩ := added member hmem
        rw [List.map_map] at hnew
        exact reading?_of_new hread hkey hnew
      have hgive : List.Forall₂ (fun step member => schema.reading? member = some (some step))
          (left.map fun entry => (entry.name, entry.set)) known := by
        rw [List.filter_map, List.forall₂_map_left_iff] at stay
        rw [List.forall₂_map_left_iff]
        have hleft : ∀ entry ∈ left, entry ∈ entries := fun entry => List.mem_of_mem_filter
        exact ((List.forall₂_and_left left known).mpr ⟨hleft, stay⟩).imp
          fun entry member h => hapart.reading?_of_remains hread h.1 h.2.1 h.2.2
      have hdistinct : ((left.map fun entry => (entry.name, entry.set)).map Prod.fst).Nodup := by
        rw [List.map_map]
        exact (names_of_readBy hread ▸ hapart.names).sublist (List.filter_sublist.map Entry.name)
      rw [decoder, hapart.readMembers_perm moved, readMembers_unknown hskip,
        readMembers_known hgive hdistinct (fun _ _ => List.not_mem_nil), List.foldl_map,
        List.foldl_filter]
      simp only [Entry.apply, decide_eq_true_eq]

end Schema

/-! ### Reading one member -/

theorem optional_string_of_standsFor {setting : Option String} {tree : Tree}
    (h : StandsFor (settingValue setting) tree) :
    Decoder.optional Decoder.string tree = some setting := by
  unfold StandsFor Decoder.value Value.maxDepth at h
  cases setting with
  | none =>
      cases tree with
      | null => rfl
      | _ => simp [Value.ofTree?, settingValue] at h
  | some text =>
      cases tree with
      | string pieces =>
          have htext : text? pieces = some text := by simpa [Value.ofTree?, settingValue] using h
          exact congrArg (Option.map some) htext
      | _ => simp [Value.ofTree?, settingValue] at h

theorem bool_of_standsFor {value : Bool} {tree : Tree}
    (h : StandsFor (.bool value) tree) : Decoder.bool tree = some value := by
  unfold StandsFor Decoder.value Value.maxDepth at h
  cases tree with
  | bool other =>
      have hvalue : other = value := by simpa [Value.ofTree?] using h
      exact congrArg some hvalue
  | _ => simp [Value.ofTree?] at h

theorem natural_of_standsFor {value bits : Nat} (hvalue : value < 1 <<< bits)
    {tree : Tree} (h : StandsFor (.number (.natural value)) tree) :
    Decoder.natural bits tree = some value := by
  unfold StandsFor Decoder.value Value.maxDepth at h
  cases tree with
  | number numeral =>
      have hnumber : numeral.number? = some (.natural value) := by simpa [Value.ofTree?] using h
      simp only [Decoder.natural, hnumber, if_pos hvalue]
  | _ => simp [Value.ofTree?] at h

/-- A field reads the value of a kept member, and the default in place of a cleared one. -/
theorem Entry.readBy_of {ρ α : Type} {fate : String → Fate} {stands : Standing} {name : String}
    {decoder : Decoder α} {set : α → ρ → ρ} {value : Value} {read default : α}
    (hkept : ∀ tree, stands name value tree → decoder tree = some read)
    (hcleared : (∃ setting, value = settingValue setting) → decoder .null = some default) :
    Entry.ReadBy fate stands (Field.of name decoder set)
      ⟨name, value, set ((fate name).pick read default)⟩ := by
  refine ⟨rfl, fun tree h => ?_⟩
  simp only [Remains] at h
  cases hfate : fate name with
  | kept =>
      rw [hfate] at h
      exact congrArg (Option.map set) (hkept tree h)
  | cleared =>
      rw [hfate] at h
      obtain ⟨rfl, hsetting⟩ := h
      exact congrArg (Option.map set) (hcleared hsetting)
  | removed =>
      rw [hfate] at h
      exact h.elim

theorem Entry.readBy_setting {ρ : Type} {fate : String → Fate} {stands : Standing} {name : String}
    {set : Option String → ρ → ρ} {setting : Option String}
    (h : ∀ tree, stands name (settingValue setting) tree →
      StandsFor (settingValue setting) tree) :
    Entry.ReadBy fate stands (settingField name set)
      ⟨name, settingValue setting, set ((fate name).pick setting none)⟩ :=
  Entry.readBy_of (fun tree hstands => optional_string_of_standsFor (h tree hstands)) fun _ => rfl

/-- Only a text or `null` is a setting. -/
theorem not_setting {value : Value} (hnull : value ≠ .null) (htext : ∀ text, value ≠ .string text) :
    ¬ ∃ setting, value = settingValue setting := by
  rintro ⟨_ | text, rfl⟩
  · exact hnull rfl
  · exact htext text rfl

end ControlPlane.Json
