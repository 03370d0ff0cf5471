import ControlPlane.Signer
import Mathlib.Data.List.Induction
import Mathlib.Data.List.Nodup

/-!
# Header fields that stand once

A name that is set has one value, and no later setting gives it another: what is set replaces what
was there. So a signer that sets a header leaves exactly one field of its name. Of two headers of
one name the last one counts, and to set the same headers again changes nothing.
-/

namespace ControlPlane

namespace HeaderMap

variable {headers : HeaderMap} {name : HeaderName}

/-- No name has its values in two places. -/
def Distinct (headers : HeaderMap) : Prop :=
  (headers.entries.map Prod.fst).Nodup

theorem map_fst_update (name : HeaderName) (change : List HeaderValue → List HeaderValue)
    (entries : List (HeaderName × List HeaderValue)) :
    (update name change entries).map Prod.fst =
      if name ∈ entries.map Prod.fst then entries.map Prod.fst
      else entries.map Prod.fst ++ [name] := by
  induction entries with
  | nil => rfl
  | cons entry rest ih =>
      rw [update]
      by_cases hname : entry.1 = name
      · simp [hname]
      · rw [if_neg hname, List.map_cons, ih, List.map_cons]
        by_cases hrest : name ∈ rest.map Prod.fst
        · rw [if_pos hrest, if_pos (List.mem_cons_of_mem _ hrest)]
        · rw [if_neg hrest, if_neg (by simp [Ne.symm hname, hrest]), List.cons_append]

theorem Distinct.insert (h : headers.Distinct) (name : HeaderName) (value : HeaderValue) :
    (headers.insert name value).Distinct := by
  rw [Distinct, HeaderMap.insert, map_fst_update]
  split
  · exact h
  · next hnew => exact List.Nodup.append h (List.nodup_singleton _) (by simpa using hnew)

/-- The fields of a name are its values. -/
theorem Distinct.fields_eq (h : headers.Distinct) (name : HeaderName) :
    headers.toList.filter (·.1 = name) = (headers.values name).map (name, ·) := by
  obtain ⟨entries⟩ := headers
  rw [toList, values]
  induction entries with
  | nil => rfl
  | cons entry rest ih =>
      obtain ⟨hother, hrest⟩ := List.nodup_cons.mp h
      rw [List.flatMap_cons, List.filter_append]
      by_cases hname : entry.1 = name
      · have hnone : (rest.flatMap fun entry => entry.2.map fun value => (entry.1, value)).filter
            (·.1 = name) = [] := by
          rw [List.filter_eq_nil_iff]
          intro field hfield heq
          obtain ⟨found, hfound, hmem⟩ := List.mem_flatMap.mp hfield
          obtain ⟨value, -, rfl⟩ := List.mem_map.mp hmem
          exact hother (List.mem_map.mpr ⟨found, hfound, (of_decide_eq_true heq).trans hname.symm⟩)
        rw [hnone, List.find?_cons_of_pos (by simp [hname]), List.append_nil, hname]
        simp
      · rw [List.find?_cons_of_neg (by simp [hname])]
        refine Eq.trans ?_ (ih hrest)
        rw [List.filter_eq_nil_iff.mpr, List.nil_append]
        intro field hfield
        obtain ⟨value, -, rfl⟩ := List.mem_map.mp hfield
        simp [hname]

theorem mem_map_fst_insert_self (headers : HeaderMap) (name : HeaderName) (value : HeaderValue) :
    name ∈ (headers.insert name value).entries.map Prod.fst := by
  rw [HeaderMap.insert, map_fst_update]
  split
  · assumption
  · simp

theorem mem_map_fst_insert (h : name ∈ headers.entries.map Prod.fst) (other : HeaderName)
    (value : HeaderValue) : name ∈ (headers.insert other value).entries.map Prod.fst := by
  rw [HeaderMap.insert, map_fst_update]
  split
  · exact h
  · exact List.mem_append_left _ h

theorem insert_insert_self (headers : HeaderMap) (name : HeaderName) (first last : HeaderValue) :
    (headers.insert name first).insert name last = headers.insert name last := by
  obtain ⟨entries⟩ := headers
  simp only [HeaderMap.insert, mk.injEq]
  induction entries with
  | nil => simp [update]
  | cons entry rest ih =>
      by_cases hname : entry.1 = name
      · simp [update, hname]
      · simp [update, hname, ih]

/-- Names that are there already may be set in either order. -/
theorem insert_comm_of_mem {other : HeaderName} (h : name ∈ headers.entries.map Prod.fst)
    (hne : name ≠ other) (value otherValue : HeaderValue) :
    (headers.insert other otherValue).insert name value =
      (headers.insert name value).insert other otherValue := by
  obtain ⟨entries⟩ := headers
  simp only [HeaderMap.insert, mk.injEq]
  induction entries with
  | nil => cases h
  | cons entry rest ih =>
      by_cases hname : entry.1 = name
      · have hother : entry.1 ≠ other := hname ▸ hne
        simp [update, hname, hne]
      · have hrest : name ∈ rest.map Prod.fst :=
          (List.mem_cons.mp h).resolve_left (Ne.symm hname)
        by_cases hother : entry.1 = other
        · simp [update, hother, hne.symm]
        · simp [update, hname, hother, ih hrest]

end HeaderMap

namespace FixedHeader

variable {headers : HeaderMap} {fixed : List FixedHeader} {name : HeaderName}

theorem distinct_insertAll (h : headers.Distinct) (fixed : List FixedHeader) :
    (insertAll headers fixed).Distinct := by
  induction fixed generalizing headers with
  | nil => exact h
  | cons header rest ih => exact ih (h.insert header.1 header.2)

/-- The value of the last header of a name. -/
def lastValue? (fixed : List FixedHeader) (name : HeaderName) : Option HeaderValue :=
  (fixed.filter (·.1 = name)).getLast?.map Prod.snd

theorem lastValue?_append (first last : List FixedHeader) (name : HeaderName) :
    lastValue? (first ++ last) name = (lastValue? last name).or (lastValue? first name) := by
  rw [lastValue?, List.filter_append, List.getLast?_append, Option.map_or]
  rfl

theorem lastValue?_singleton (header : FixedHeader) (name : HeaderName) :
    lastValue? [header] name = if header.1 = name then some header.2 else none := by
  by_cases h : header.1 = name <;> simp [lastValue?, h]

theorem lastValue?_eq_none_iff :
    lastValue? fixed name = none ↔ ∀ header ∈ fixed, header.1 ≠ name := by
  simp [lastValue?]

/-- **What is set.** The last header of a name gives its one value; other names keep theirs. -/
theorem values_insertAll (headers : HeaderMap) (fixed : List FixedHeader) (name : HeaderName) :
    (insertAll headers fixed).values name =
      match lastValue? fixed name with
      | some value => [value]
      | none => headers.values name := by
  induction fixed generalizing headers with
  | nil => rfl
  | cons header rest ih =>
      change (insertAll (headers.insert header.1 header.2) rest).values name = _
      rw [ih, ← List.singleton_append, lastValue?_append, lastValue?_singleton]
      cases lastValue? rest name with
      | some value => rfl
      | none =>
          by_cases hname : header.1 = name
          · simp [← hname]
          · rw [HeaderMap.values_insert_ne headers (Ne.symm hname), if_neg hname]
            rfl

theorem mem_map_fst_insertAll (h : name ∈ headers.entries.map Prod.fst)
    (fixed : List FixedHeader) : name ∈ (insertAll headers fixed).entries.map Prod.fst := by
  induction fixed generalizing headers with
  | nil => exact h
  | cons header rest ih => exact ih (HeaderMap.mem_map_fst_insert h header.1 header.2)

theorem mem_map_fst_insertAll_of_mem {header : FixedHeader} (h : header ∈ fixed)
    (headers : HeaderMap) : header.1 ∈ (insertAll headers fixed).entries.map Prod.fst := by
  induction fixed generalizing headers with
  | nil => cases h
  | cons first rest ih =>
      rcases List.mem_cons.mp h with rfl | hrest
      · exact mem_map_fst_insertAll (HeaderMap.mem_map_fst_insert_self ..) rest
      · exact ih hrest _

/-- A header that is set in the end need not be set before, if those in between are there. -/
theorem insert_insertAll_insert (last : FixedHeader)
    (h : ∀ header ∈ fixed, header.1 ∈ headers.entries.map Prod.fst) :
    (insertAll (headers.insert last.1 last.2) fixed).insert last.1 last.2 =
      (insertAll headers fixed).insert last.1 last.2 := by
  induction fixed generalizing headers with
  | nil => exact HeaderMap.insert_insert_self ..
  | cons header rest ih =>
      rw [List.forall_mem_cons] at h
      change (insertAll ((headers.insert last.1 last.2).insert header.1 header.2) rest).insert
        last.1 last.2 = (insertAll (headers.insert header.1 header.2) rest).insert last.1 last.2
      by_cases hname : header.1 = last.1
      · rw [hname, HeaderMap.insert_insert_self]
      · rw [HeaderMap.insert_comm_of_mem h.1 hname]
        exact ih fun other hother => HeaderMap.mem_map_fst_insert (h.2 other hother) _ _

/-- **Setting headers again** changes nothing, not even their order. -/
theorem insertAll_insertAll (headers : HeaderMap) (fixed : List FixedHeader) :
    insertAll (insertAll headers fixed) fixed = insertAll headers fixed := by
  -- From the back, since a header that is followed by one of its name is no longer there.
  induction fixed using List.reverseRecOn with
  | nil => rfl
  | append_singleton fixed last ih =>
      have hthere : ∀ header ∈ fixed,
          header.1 ∈ (insertAll headers fixed).entries.map Prod.fst := by
        intro header hmem
        exact mem_map_fst_insertAll_of_mem hmem headers
      have hsplit (start : HeaderMap) :
          insertAll start (fixed ++ [last]) = (insertAll start fixed).insert last.1 last.2 := by
        simp [insertAll]
      rw [hsplit headers, hsplit, insert_insertAll_insert last hthere, ih]

/-- **What is set stands once.** -/
theorem exists_field_insertAll (hdistinct : headers.Distinct) (h : name ∈ fixed.map Prod.fst) :
    ∃ value, (insertAll headers fixed).toList.filter (·.1 = name) = [(name, value)] := by
  rw [(distinct_insertAll hdistinct fixed).fields_eq, values_insertAll]
  cases hlast : lastValue? fixed name with
  | some value => exact ⟨value, rfl⟩
  | none =>
      obtain ⟨header, hmem, hname⟩ := List.mem_map.mp h
      exact absurd hname (lastValue?_eq_none_iff.mp hlast header hmem)

end FixedHeader

end ControlPlane
