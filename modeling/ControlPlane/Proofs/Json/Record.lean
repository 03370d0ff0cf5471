import Mathlib.Data.List.Forall2
import Mathlib.Data.List.Nodup
import Mathlib.Data.List.Pairwise
import ControlPlane.Json.Record

/-!
# Records are read member by member

Each member of an object is refused, skipped, or gives one field; a field that is given twice makes
the whole object unreadable. Where two fields of different names never write to the same place, the
order of the members does not matter.
-/

namespace ControlPlane.Json.Schema

variable {ρ : Type} {schema : Schema ρ}

/-! ### What one member does -/

/-- The field that a member gives and what it writes: nothing if the member is unreadable, no field
if its name is not known. -/
def reading? (schema : Schema ρ) (member : List Piece × Tree) : Option (Option (String × (ρ → ρ))) :=
  (text? member.1).bind fun key =>
    match schema.find? key with
    | none => some none
    | some field => (field.read member.2).map fun set => some (key, set)

theorem readMembers_cons (seen : List String) (record : ρ) (member : List Piece × Tree)
    (rest : List (List Piece × Tree)) :
    schema.readMembers seen record (member :: rest) =
      match schema.reading? member with
      | none => none
      | some none => schema.readMembers seen record rest
      | some (some (key, set)) =>
        if key ∈ seen then none else schema.readMembers (key :: seen) (set record) rest := by
  rw [readMembers, reading?]
  rcases htext : text? member.1 with _ | key
  · rfl
  rcases hfind : schema.find? key with _ | field
  · simp only [Option.bind_some, hfind]
  rcases hread : field.read member.2 with _ | set
  · simp only [Option.bind_some, hfind, hread, Option.map_none, ite_self]
  · simp only [Option.bind_some, hfind, hread, Option.map_some]

theorem mem_of_reading? {member : List Piece × Tree} {key : String} {set : ρ → ρ}
    (h : schema.reading? member = some (some (key, set))) :
    ∃ field ∈ schema.fields, field.name = key ∧ field.read member.2 = some set := by
  obtain ⟨key', -, h⟩ := Option.bind_eq_some_iff.mp h
  cases hfind : schema.find? key' with
  | none => simp [hfind] at h
  | some field =>
      simp only [hfind, Option.map_eq_some_iff] at h
      obtain ⟨set', hread, heq⟩ := h
      cases heq
      exact ⟨field, List.mem_of_find?_eq_some hfind, by simpa using List.find?_some hfind, hread⟩

/-! ### Members in any order -/

/-- Only which fields have been given counts, not in what order. -/
theorem readMembers_congr_seen {seen seen' : List String} (h : ∀ key, key ∈ seen ↔ key ∈ seen')
    (record : ρ) (members : List (List Piece × Tree)) :
    schema.readMembers seen record members = schema.readMembers seen' record members := by
  induction members generalizing seen seen' record with
  | nil => rfl
  | cons member rest ih =>
      rw [readMembers_cons, readMembers_cons]
      rcases schema.reading? member with _ | _ | ⟨key, set⟩
      · rfl
      · exact ih h record
      · have hnext : ∀ other, other ∈ key :: seen ↔ other ∈ key :: seen' := fun other => by
          rw [List.mem_cons, List.mem_cons, h]
        simp only [h, ih hnext]

/-- Whatever two fields read, what they write does not depend on which of them comes first. -/
def Commute (one other : Json.Field ρ) : Prop :=
  ∀ first second set set', one.read first = some set → other.read second = some set' →
    ∀ record, set (set' record) = set' (set record)

instance : Std.Symm (Commute (ρ := ρ)) where
  symm _ _ h first second set set' hset hset' record :=
    (h second first set' set hset' hset record).symm

theorem commute_of {α β : Type} {name name' : String} {decoder : Decoder α} {decoder' : Decoder β}
    {set : α → ρ → ρ} {set' : β → ρ → ρ}
    (h : ∀ value value' record, set value (set' value' record) = set' value' (set value record)) :
    Commute (Field.of name decoder set) (Field.of name' decoder' set') := by
  intro first second write write' hwrite hwrite' record
  obtain ⟨_, -, rfl⟩ := Option.map_eq_some_iff.mp hwrite
  obtain ⟨_, -, rfl⟩ := Option.map_eq_some_iff.mp hwrite'
  exact h _ _ record

/-- The fields of a record are apart: they have different names and write to different places. -/
structure Apart (schema : Schema ρ) : Prop where
  names : (schema.fields.map Field.name).Nodup
  commute : schema.fields.Pairwise Commute

theorem Apart.find?_name (h : schema.Apart) {field : Json.Field ρ} (hmem : field ∈ schema.fields) :
    schema.find? field.name = some field := by
  cases hfind : schema.find? field.name with
  | none =>
      have hnone := List.find?_eq_none.mp hfind field hmem
      exact absurd (decide_eq_true rfl) hnone
  | some other =>
      have hname : other.name = field.name := by simpa using List.find?_some hfind
      rw [List.inj_on_of_nodup_map h.names (List.mem_of_find?_eq_some hfind) hmem hname]

theorem Apart.reading_comm (h : schema.Apart) {member other : List Piece × Tree}
    {key key' : String} {set set' : ρ → ρ} (hmember : schema.reading? member = some (some (key, set)))
    (hother : schema.reading? other = some (some (key', set'))) (hne : key ≠ key') (record : ρ) :
    set (set' record) = set' (set record) := by
  obtain ⟨field, hfield, rfl, hread⟩ := mem_of_reading? hmember
  obtain ⟨field', hfield', rfl, hread'⟩ := mem_of_reading? hother
  have hfields : field ≠ field' := fun heq => hne (congrArg Field.name heq)
  exact h.commute.forall hfield hfield' hfields _ _ _ _ hread hread' record

theorem Apart.readMembers_swap (h : schema.Apart) (one other : List Piece × Tree)
    (seen : List String) (record : ρ) (rest : List (List Piece × Tree)) :
    schema.readMembers seen record (one :: other :: rest) =
      schema.readMembers seen record (other :: one :: rest) := by
  simp only [readMembers_cons]
  rcases hone : schema.reading? one with _ | _ | ⟨key, set⟩ <;>
    rcases hother : schema.reading? other with _ | _ | ⟨key', set'⟩ <;> simp only [ite_self]
  -- Both give a field: the same one, and neither order is read, or two that do not interfere.
  by_cases hsame : key = key'
  · subst hsame
    simp
  · have hseen : ∀ name, name ∈ key' :: key :: seen ↔ name ∈ key :: key' :: seen :=
      fun name => by simp only [List.mem_cons, or_left_comm]
    rw [h.reading_comm hone hother hsame, readMembers_congr_seen hseen]
    by_cases hkey : key ∈ seen <;> by_cases hkey' : key' ∈ seen <;>
      simp [hkey, hkey', hsame, Ne.symm hsame]

/-- **The order of the members does not matter.** -/
theorem Apart.readMembers_perm (h : schema.Apart) {members members' : List (List Piece × Tree)}
    (hperm : members.Perm members') (seen : List String) (record : ρ) :
    schema.readMembers seen record members = schema.readMembers seen record members' := by
  induction hperm generalizing seen record with
  | nil => rfl
  | cons member hperm ih => simp only [readMembers_cons, ih]
  | swap one other rest => exact h.readMembers_swap other one seen record rest
  | trans _ _ ih ih' => rw [ih, ih']

/-! ### A whole object -/

theorem readMembers_unknown {unknown : List (List Piece × Tree)}
    (h : ∀ member ∈ unknown, schema.reading? member = some none) (seen : List String) (record : ρ)
    (rest : List (List Piece × Tree)) :
    schema.readMembers seen record (unknown ++ rest) = schema.readMembers seen record rest := by
  induction unknown with
  | nil => rfl
  | cons member unknown ih =>
      obtain ⟨hmember, hunknown⟩ := List.forall_mem_cons.mp h
      rw [List.cons_append, readMembers_cons, hmember]
      exact ih hunknown

/-- Members that give different fields are all read, one after the other. -/
theorem readMembers_known {members : List (List Piece × Tree)} {given : List (String × (ρ → ρ))}
    (h : List.Forall₂ (fun step member => schema.reading? member = some (some step)) given members)
    (hdistinct : (given.map Prod.fst).Nodup) {seen : List String}
    (hnew : ∀ step ∈ given, step.1 ∉ seen) (record : ρ) :
    schema.readMembers seen record members =
      some (given.foldl (fun record step => step.2 record) record) := by
  induction h generalizing seen record with
  | nil => rfl
  | @cons step member given rest hmember _ ih =>
      obtain ⟨hstep, hgiven⟩ := List.forall_mem_cons.mp hnew
      obtain ⟨hfirst, hothers⟩ := List.nodup_cons.mp hdistinct
      have hnext : ∀ other ∈ given, other.1 ∉ step.1 :: seen := by
        intro other hother hmem
        rcases List.mem_cons.mp hmem with heq | hmem
        · exact hfirst (heq ▸ List.mem_map_of_mem hother)
        · exact hgiven other hother hmem
      rw [readMembers_cons, hmember, List.foldl_cons]
      exact (if_neg hstep).trans (ih hothers hnext (step.2 record))

end ControlPlane.Json.Schema
