import ControlPlane.Call
import ControlPlane.Proofs.Json.Members
import ControlPlane.Proofs.Url.Form
import ControlPlane.Proofs.Url.Server

/-!
# What a query carries

A call that fetches or deletes puts its body into the query of its URL, and the whole body can be
read back there: the pairs of each member stand after what the query held before, and nothing else
of the URL changes.
-/

namespace ControlPlane.Call

open Json Url

/-! ### Pairs of a body -/

/-- The texts that pairs hold for a key. -/
def textsOf (key : String) (pairs : List (String × String)) : List String :=
  (pairs.filter (·.1 = key)).map Prod.snd

theorem fst_of_mem_memberPairs {key : String} {value : Value} {pair : String × String}
    (h : pair ∈ memberPairs key value) : pair.1 = key := by
  unfold memberPairs at h
  split at h
  · cases h
  · obtain ⟨item, -, rfl⟩ := List.mem_map.mp h
    rfl
  · rw [List.mem_singleton.mp h]

theorem textsOf_memberPairs (key : String) (value : Value) :
    textsOf key (memberPairs key value) = (memberPairs key value).map Prod.snd := by
  rw [textsOf, List.filter_eq_self.mpr]
  intro pair hpair
  exact decide_eq_true (fst_of_mem_memberPairs hpair)

theorem textsOf_eq_nil {key : String} {members : List (String × Value)}
    (h : ∀ member ∈ members, member.1 ≠ key) :
    textsOf key (members.flatMap fun member => memberPairs member.1 member.2) = [] := by
  rw [textsOf, List.filter_eq_nil_iff.mpr, List.map_nil]
  intro pair hpair
  obtain ⟨member, hmember, hmem⟩ := List.mem_flatMap.mp hpair
  rw [decide_eq_true_eq, fst_of_mem_memberPairs hmem]
  exact h member hmember

/-- The pairs that members are flattened to: by the octets of their keys, and for each key what its
one member gives. -/
structure Flattened (members : List (String × Value)) (pairs : List (String × String)) :
    Prop where
  ordered : pairs.Pairwise fun one other => Bytes.ofString one.1 ≤ Bytes.ofString other.1
  key_mem : ∀ pair ∈ pairs, ∃ value, (pair.1, value) ∈ members
  of_null : ∀ key, (key, .null) ∈ members → textsOf key pairs = []
  of_array : ∀ key items, (key, .array items) ∈ members →
    textsOf key pairs = items.map queryText
  of_other : ∀ key value, (key, value) ∈ members → value ≠ .null →
    (∀ items, value ≠ .array items) → textsOf key pairs = [queryText value]

theorem textsOf_of_mem {members : List (String × Value)} (hordered : Value.Ascending members)
    {key : String} {value : Value} (h : (key, value) ∈ members) :
    textsOf key (members.flatMap fun member => memberPairs member.1 member.2) =
      (memberPairs key value).map Prod.snd := by
  obtain ⟨front, back, rfl⟩ := List.append_of_mem h
  obtain ⟨-, hback, hfront⟩ := List.pairwise_append.mp hordered
  have hbefore := textsOf_eq_nil fun member hmember heq =>
    List.lt_irrefl _ (heq ▸ hfront member hmember _ (List.mem_cons_self ..))
  have hafter := textsOf_eq_nil fun member hmember heq =>
    List.lt_irrefl _ (heq ▸ (List.pairwise_cons.mp hback).1 member hmember)
  have happend (one other : List (String × String)) :
      textsOf key (one ++ other) = textsOf key one ++ textsOf key other := by
    simp only [textsOf, List.filter_append, List.map_append]
  rw [List.flatMap_append, List.flatMap_cons, happend, happend, hbefore, hafter,
    List.nil_append, List.append_nil]
  exact textsOf_memberPairs key value

theorem flattened_flatMap {members : List (String × Value)} (hordered : Value.Ascending members) :
    Flattened members (members.flatMap fun member => memberPairs member.1 member.2) where
  ordered := by
    rw [List.pairwise_flatMap]
    constructor
    · intro member _
      refine List.pairwise_of_forall_mem_list fun pair hpair next hnext => ?_
      rw [fst_of_mem_memberPairs hpair, fst_of_mem_memberPairs hnext]
      exact List.le_refl _
    · refine List.Pairwise.imp ?_ hordered
      intro one other hlt pair hpair next hnext
      rw [fst_of_mem_memberPairs hpair, fst_of_mem_memberPairs hnext]
      exact List.le_of_lt hlt
  key_mem pair hpair := by
    obtain ⟨⟨key, value⟩, hmember, hmem⟩ := List.mem_flatMap.mp hpair
    obtain rfl := fst_of_mem_memberPairs hmem
    exact ⟨value, hmember⟩
  of_null key h := by rw [textsOf_of_mem hordered h]; rfl
  of_array key items h := by
    rw [textsOf_of_mem hordered h, memberPairs, List.map_map]
    rfl
  of_other key value h hnull harray := by
    rw [textsOf_of_mem hordered h]
    unfold memberPairs
    split
    · exact absurd rfl hnull
    · exact absurd rfl (harray _)
    · rfl

/-! ### Queries -/

/-- A request whose query carries pairs: it has no body and says nothing of one, and its URL is the
one that was called but for the pairs, which are read after those that stood there. -/
structure Carries (method : Method) (url : Url) (pairs : List (String × String))
    (request : Request) : Prop where
  method_eq : request.method = method
  body_eq : request.body = .absent
  headers_eq : request.headers.toList = [(.accept, jsonType)]
  server_eq : request.url.server = url.server
  path_eq : request.url.path = url.path
  fragment_eq : request.url.fragment = url.fragment
  query_eq : Form.decode (request.url.query.getD "") = Form.decode (url.query.getD "") ++ pairs
  url_eq : pairs = [] → request.url = url

theorem carries_pairs (method : Method) (url : Url) (pairs : List (String × String)) :
    Carries method url pairs
      { method := method
        url := if pairs.isEmpty then url else url.appendPairs pairs
        headers := baseHeaders } := by
  cases pairs with
  | nil => exact ⟨rfl, rfl, rfl, rfl, rfl, rfl, (List.append_nil _).symm, fun _ => rfl⟩
  | cons pair pairs =>
      refine ⟨rfl, rfl, rfl, rfl, rfl, rfl, ?_, nofun⟩
      have hdecode := Form.decode_extend (url.query.getD "").toList (pair :: pairs)
      rw [String.ofList_toList] at hdecode
      exact hdecode

theorem request_of_queryPairs {method : Method} (hmethod : method = .get ∨ method = .delete)
    (url : Url) (body : Value) :
    Call.request method url (some body) =
      (queryPairs body).map fun pairs =>
        { method := method
          url := if pairs.isEmpty then url else url.appendPairs pairs
          headers := baseHeaders } := by
  have htakes : method.takesQuery = true := by
    rcases hmethod with rfl | rfl <;> rfl
  simp only [Call.request, htakes, if_true]

/-- Members whose texts have marks of a query in them. -/
def listing : List (String × Value) :=
  [("a b", .array [.null, .string "é&="]), ("c", .null), ("d", .bool true)]

def listed : Url where
  scheme := "https"
  host := some (.domain "a.example")
  path := "/api"
  query := some "x=1"
  fragment := some "top"

end ControlPlane.Call
