import ControlPlane.Json.Value
import ControlPlane.Proofs.Bytes

/-!
# The order of members

The members of an object that was read stand by the octets of their keys, and no key stands twice:
each member goes where its key belongs, in place of one with the same key.
-/

namespace ControlPlane.Json.Value

/-- Members by the octets of their keys, no key twice. -/
def Ascending (members : List (String × Value)) : Prop :=
  members.Pairwise fun one other => Bytes.ofString one.1 < Bytes.ofString other.1

theorem eq_or_mem_of_mem_insert {key : String} {value : Value} {member : String × Value}
    {members : List (String × Value)} (h : member ∈ insert key value members) :
    member.1 = key ∨ member ∈ members := by
  induction members with
  | nil =>
      rw [insert, List.mem_singleton] at h
      exact .inl (by rw [h])
  | cons held rest ih =>
      rw [insert] at h
      split at h
      next =>
        rcases List.mem_cons.mp h with rfl | hmem
        · exact .inl rfl
        · exact .inr hmem
      split at h
      next =>
        rcases List.mem_cons.mp h with rfl | hmem
        · exact .inl rfl
        · exact .inr (List.mem_cons_of_mem _ hmem)
      next =>
        rcases List.mem_cons.mp h with rfl | hmem
        · exact .inr (List.mem_cons_self ..)
        · exact (ih hmem).imp_right (List.mem_cons_of_mem _)

theorem Ascending.insert {members : List (String × Value)} (h : Ascending members) (key : String)
    (value : Value) : Ascending (insert key value members) := by
  induction members with
  | nil => exact List.pairwise_singleton _ _
  | cons held rest ih =>
      obtain ⟨hheld, hrest⟩ := List.pairwise_cons.mp h
      rw [Value.insert]
      split
      next hbefore =>
        refine List.pairwise_cons.mpr ⟨fun member hmem => ?_, h⟩
        rcases List.mem_cons.mp hmem with rfl | hmem
        · exact Bytes.ofString_lt hbefore
        · exact List.lt_trans (Bytes.ofString_lt hbefore) (hheld member hmem)
      split
      next hsame =>
        subst hsame
        exact List.pairwise_cons.mpr ⟨hheld, hrest⟩
      next hbefore hother =>
        have hafter : held.1 < key :=
          String.not_le.mp fun hle => hother (String.le_antisymm hle (String.not_lt.mp hbefore))
        refine List.pairwise_cons.mpr ⟨fun member hmem => ?_, ih hrest⟩
        rcases eq_or_mem_of_mem_insert hmem with hkey | hmem
        · rw [hkey]
          exact Bytes.ofString_lt hafter
        · exact hheld member hmem

theorem ascending_sortMembers (members : List (String × Value)) :
    Ascending (sortMembers members) := by
  have hfold (sorted : List (String × Value)) (h : Ascending sorted) :
      Ascending (members.foldl (fun sorted member => Value.insert member.1 member.2 sorted)
        sorted) := by
    induction members generalizing sorted with
    | nil => exact h
    | cons member members ih => exact ih _ (h.insert member.1 member.2)
  exact hfold [] List.Pairwise.nil

/-- **Objects are read in order.** -/
theorem ascending_of_ofTree? {room : Nat} {tree : Tree} {members : List (String × Value)}
    (h : ofTree? room tree = some (.object members)) : Ascending members := by
  cases tree with
  | object written =>
      cases room with
      | zero => simp [ofTree?] at h
      | succ room =>
          rw [ofTree?, Option.map_eq_some_iff] at h
          obtain ⟨read, -, hread⟩ := h
          obtain rfl := Value.object.inj hread
          exact ascending_sortMembers read
  | array items => cases room <;> simp [ofTree?] at h
  | _ => simp [ofTree?] at h

end ControlPlane.Json.Value
