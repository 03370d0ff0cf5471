import ControlPlane.Proofs.Json.Text

/-!
# Values are read as they are written

`Value.tree` is what the reader finds where a value is written. A written value spells the tokens of
its tree in both layouts, since the reader skips the blanks between tokens, and the stack machine
builds a tree back from its tokens.
-/

namespace ControlPlane.Json

open Bytes

/-- A writer that goes through a list item by item. -/
theorem eq_map_of_cons {α β : Type} {all : List α → List β} {each : α → β} (hnil : all [] = [])
    (hcons : ∀ item rest, all (item :: rest) = each item :: all rest) (items : List α) :
    all items = items.map each := by
  induction items with
  | nil => exact hnil
  | cons item items ih => rw [hcons, ih, List.map_cons]

/-! ### The tokens of a tree -/

namespace Tree

def joinTokens : List (List Token) → List Token
  | [] => []
  | [item] => item
  | item :: rest => item ++ .comma :: joinTokens rest

theorem joinTokens_cons_cons (item other : List Token) (rest : List (List Token)) :
    joinTokens (item :: other :: rest) = item ++ .comma :: joinTokens (other :: rest) := rfl

mutual

/-- The tokens that spell a tree. -/
def tokens : Tree → List Token
  | .null => [.null]
  | .bool value => [.bool value]
  | .number numeral => [.number numeral]
  | .string pieces => [.string pieces]
  | .array items => .openArray :: joinTokens (itemTokens items) ++ [.closeArray]
  | .object members => .openObject :: joinTokens (memberTokens members) ++ [.closeObject]

def itemTokens : List Tree → List (List Token)
  | [] => []
  | item :: rest => tokens item :: itemTokens rest

def memberTokens : List (List Piece × Tree) → List (List Token)
  | [] => []
  | (key, tree) :: rest => (.string key :: .colon :: tokens tree) :: memberTokens rest

end

theorem itemTokens_eq (items : List Tree) : itemTokens items = items.map tokens :=
  eq_map_of_cons rfl (fun _ _ => rfl) items

theorem memberTokens_eq (members : List (List Piece × Tree)) :
    memberTokens members = members.map fun member => .string member.1 :: .colon :: tokens member.2 :=
  eq_map_of_cons rfl (fun _ _ => rfl) members

/-- What holds of containers if it holds of what they hold, holds of every tree. -/
@[elab_as_elim]
theorem induction {P : Tree → Prop} (null : P .null) (bool : ∀ value, P (.bool value))
    (number : ∀ numeral, P (.number numeral)) (string : ∀ pieces, P (.string pieces))
    (array : ∀ items, (∀ item ∈ items, P item) → P (.array items))
    (object : ∀ members, (∀ member ∈ members, P member.2) → P (.object members)) (tree : Tree) :
    P tree :=
  @Tree.rec P (fun items => ∀ item ∈ items, P item) (fun members => ∀ member ∈ members, P member.2)
    (fun member => P member.2) null bool number string array object nofun
    (fun _ _ hitem hitems => List.forall_mem_cons.mpr ⟨hitem, hitems⟩) nofun
    (fun _ _ hmember hmembers => List.forall_mem_cons.mpr ⟨hmember, hmembers⟩)
    (fun _ _ htree => htree) tree

/-- Where a value is due, the machine reads the tokens of the tree and delivers it. -/
def Delivered (tree : Tree) : Prop :=
  ∀ stack more, (tree.tokens ++ more).foldlM step (.value stack) =
    more.foldlM step (deliver tree stack)

theorem run_items {items : List Tree} (h : ∀ item ∈ items, Delivered item) (hne : items ≠ [])
    (reversed : List Tree) (stack : List Frame) (more : List Token) :
    (joinTokens (items.map tokens) ++ .closeArray :: more).foldlM step
        (.value (.items reversed :: stack)) =
      more.foldlM step (deliver (.array (reversed.reverse ++ items)) stack) := by
  induction items generalizing reversed with
  | nil => exact absurd rfl hne
  | cons item items ih =>
      obtain ⟨hitem, hitems⟩ := List.forall_mem_cons.mp h
      cases items with
      | nil =>
          rw [List.map_cons, List.map_nil, joinTokens, hitem, ← List.reverse_cons]
          rfl
      | cons other items =>
          have hrest := ih hitems (List.cons_ne_nil _ _) (item :: reversed)
          rw [List.reverse_cons, List.append_assoc] at hrest
          rw [List.map_cons, List.map_cons, joinTokens_cons_cons, List.append_assoc, hitem]
          exact hrest

theorem run_members {members : List (List Piece × Tree)}
    (h : ∀ member ∈ members, Delivered member.2) (hne : members ≠ [])
    (reversed : List (List Piece × Tree)) (stack : List Frame) (more : List Token) :
    (joinTokens (members.map fun member => .string member.1 :: .colon :: tokens member.2) ++
        .closeObject :: more).foldlM step (.key reversed stack) =
      more.foldlM step (deliver (.object (reversed.reverse ++ members)) stack) := by
  induction members generalizing reversed with
  | nil => exact absurd rfl hne
  | cons member members ih =>
      obtain ⟨hmember, hmembers⟩ := List.forall_mem_cons.mp h
      have hkey (rest : List Token) :
          (.string member.1 :: .colon :: member.2.tokens ++ rest).foldlM step
              (.key reversed stack) =
            rest.foldlM step (.next (.members (member :: reversed) member.1) stack) :=
        hmember (.members reversed member.1 :: stack) rest
      cases members with
      | nil =>
          rw [List.map_cons, List.map_nil, joinTokens, hkey, ← List.reverse_cons]
          rfl
      | cons other members =>
          have hrest := ih hmembers (List.cons_ne_nil _ _) (member :: reversed)
          rw [List.reverse_cons, List.append_assoc] at hrest
          rw [List.map_cons, List.map_cons, joinTokens_cons_cons, List.append_assoc, hkey]
          exact hrest

/-- A token that does not end an array is its first item's. -/
theorem run_firstItem {first : Token} (h : first ≠ .closeArray) (others : List Token)
    (stack : List Frame) :
    (first :: others).foldlM step (.firstItem stack) =
      (first :: others).foldlM step (.value (.items [] :: stack)) := by
  cases first with
  | closeArray => exact absurd rfl h
  | _ => rfl

theorem exists_head_tokens (tree : Tree) (more : List Token) :
    ∃ first others, tree.tokens ++ more = first :: others ∧ first ≠ .closeArray := by
  cases tree <;> exact ⟨_, _, rfl, nofun⟩

theorem exists_head_joinTokens {items : List Tree} (hne : items ≠ []) (more : List Token) :
    ∃ first others, joinTokens (items.map tokens) ++ more = first :: others ∧
      first ≠ .closeArray := by
  obtain ⟨item, items, rfl⟩ := List.exists_cons_of_ne_nil hne
  cases items with
  | nil => exact exists_head_tokens item more
  | cons other items =>
      rw [List.map_cons, List.map_cons, joinTokens_cons_cons, List.append_assoc]
      exact exists_head_tokens item _

/-- **The machine delivers every tree that tokens spell.** -/
theorem delivered (tree : Tree) : Delivered tree := by
  induction tree using Tree.induction with
  | array items ih =>
      intro stack more
      by_cases hne : items = []
      · subst hne
        rfl
      · have hrun := run_items ih hne [] stack more
        obtain ⟨first, others, heq, hfirst⟩ :=
          exists_head_joinTokens hne (.closeArray :: more)
        rw [heq, ← run_firstItem hfirst, ← heq] at hrun
        rw [tokens, itemTokens_eq, List.cons_append, List.cons_append, List.append_assoc]
        exact hrun
  | object members ih =>
      intro stack more
      by_cases hne : members = []
      · subst hne
        rfl
      · have hrun := run_members ih hne [] stack more
        rw [tokens, memberTokens_eq, List.cons_append, List.cons_append, List.append_assoc]
        obtain ⟨member, members, rfl⟩ := List.exists_cons_of_ne_nil hne
        -- A first key is read as any other one.
        cases members <;> exact hrun
  | _ => exact fun stack more => rfl

/-- **A tree is read back from its tokens.** -/
theorem ofTokens?_tokens (tree : Tree) : ofTokens? tree.tokens = some tree := by
  have hrun := delivered tree [] []
  rw [List.append_nil] at hrun
  rw [ofTokens?, hrun]
  rfl

end Tree

/-! ### Characters that spell tokens -/

variable {chars : List Char} {tokens : List Token} {rest : Bytes}

theorem tokens?_gap {octet : UInt8} (h : isGap octet = true) (rest : Bytes) :
    tokens? (octet :: rest) = tokens? rest := by
  rw [tokens?, if_pos h]

theorem tokens?_of_takeToken {octets after : Bytes} {token : Token}
    (h : takeToken octets = some (token, after)) :
    tokens? octets = (tokens? after).map (token :: ·) := by
  cases octets with
  | nil => cases h
  | cons octet rest =>
      have hgap : ¬ isGap octet = true := by
        intro hgap
        simp only [isGap, Bool.or_eq_true, decide_eq_true_eq] at hgap
        rcases hgap with ((rfl | rfl) | rfl) | rfl <;> cases h
      rw [tokens?, if_neg hgap]
      split
      · next heq => rw [h] at heq; cases heq
      · next heq =>
          rw [h] at heq
          cases heq
          rfl

/-- Characters that are read as tokens where something follows that is no part of a number. -/
def Spells (chars : List Char) (tokens : List Token) : Prop :=
  ∀ rest, Ends rest → tokens? (ofChars chars ++ rest) = (tokens? rest).map (tokens ++ ·)

def Blank (chars : List Char) : Prop :=
  ∀ c ∈ chars, c = ' ' ∨ c = '\n'

theorem tokens?_blank {blanks : List Char} (h : Blank blanks) (rest : Bytes) :
    tokens? (ofChars blanks ++ rest) = tokens? rest := by
  induction blanks with
  | nil => rfl
  | cons c blanks ih =>
      obtain ⟨hc, hblanks⟩ := List.forall_mem_cons.mp h
      rw [← ih hblanks]
      rcases hc with rfl | rfl
      · exact tokens?_gap rfl _
      · exact tokens?_gap rfl _

theorem ends_blank {blanks : List Char} (h : Blank blanks) (hrest : Ends rest) :
    Ends (ofChars blanks ++ rest) := by
  cases blanks with
  | nil => exact hrest
  | cons c blanks =>
      rcases h c (List.mem_cons_self ..) with rfl | rfl
      · rintro _ ⟨⟩
        exact .inl rfl
      · rintro _ ⟨⟩
        exact .inl rfl

theorem blank_nil : Blank [] := nofun

theorem blank_newLine (depth : Nat) : Blank (Value.newLine depth) :=
  List.forall_mem_cons.mpr ⟨.inr rfl, fun _ hmem => .inl (List.eq_of_mem_replicate hmem)⟩

theorem spells_nil : Spells [] [] :=
  fun rest _ => by simp

theorem spells_token {token : Token}
    (h : ∀ rest, Ends rest → takeToken (ofChars chars ++ rest) = some (token, rest)) :
    Spells chars [token] :=
  fun rest hrest => tokens?_of_takeToken (h rest hrest)

theorem Spells.blank (h : Spells chars tokens) {blanks : List Char} (hblanks : Blank blanks) :
    Spells (blanks ++ chars) tokens := by
  intro rest hrest
  rw [ofChars_append, List.append_assoc, tokens?_blank hblanks, h rest hrest]

theorem Spells.comma (h : Spells chars tokens) {more : List Char} {others : List Token}
    (hmore : Spells more others) :
    Spells (chars ++ ',' :: more) (tokens ++ .comma :: others) := by
  intro rest hrest
  have hcomma : tokens? (0x2C :: (ofChars more ++ rest)) =
      (tokens? (ofChars more ++ rest)).map (.comma :: ·) := tokens?_of_takeToken rfl
  have hends : Ends (0x2C :: (ofChars more ++ rest)) := by
    rintro _ ⟨⟩
    exact .inr (.inl rfl)
  have hread := h _ hends
  rw [hcomma, hmore rest hrest, Option.map_map, Option.map_map] at hread
  rw [ofChars_append, List.append_assoc]
  refine hread.trans (congrArg (fun f => (tokens? rest).map f) (funext fun after => ?_))
  simp

theorem spells_member {key : String} (h : Spells chars tokens) :
    Spells (stringChars key ++ ':' :: chars) (.string (piecesOf key) :: .colon :: tokens) := by
  intro rest hrest
  have hkey := tokens?_of_takeToken (takeToken_string key (0x3A :: (ofChars chars ++ rest)))
  have hcolon : tokens? (0x3A :: (ofChars chars ++ rest)) =
      (tokens? (ofChars chars ++ rest)).map (.colon :: ·) := tokens?_of_takeToken rfl
  rw [hcolon, h rest hrest, Option.map_map, Option.map_map] at hkey
  rw [ofChars_append, List.append_assoc]
  exact hkey

theorem spells_joinComma {α : Type} {items : List α} {write : α → List Char}
    {spelled : α → List Token} (h : ∀ item ∈ items, Spells (write item) (spelled item)) :
    Spells (joinComma (items.map write)) (Tree.joinTokens (items.map spelled)) := by
  induction items with
  | nil => exact spells_nil
  | cons item items ih =>
      obtain ⟨hitem, hitems⟩ := List.forall_mem_cons.mp h
      cases items with
      | nil => exact hitem
      | cons other items => exact hitem.comma (ih hitems)

/-- Two characters that are read as the tokens around what a container holds. -/
structure Brackets (opening closing : Char) (first last : Token) : Prop where
  opens : ∀ rest, takeToken (ofChars [opening] ++ rest) = some (first, rest)
  closes : ∀ rest, takeToken (ofChars [closing] ++ rest) = some (last, rest)
  ends : ∀ rest, Ends (ofChars [closing] ++ rest)

theorem brackets_array : Brackets '[' ']' .openArray .closeArray where
  opens _ := rfl
  closes _ := rfl
  ends _ := by
    rintro _ ⟨⟩
    exact .inr (.inr (.inl rfl))

theorem brackets_object : Brackets '\x7b' '\x7d' .openObject .closeObject where
  opens _ := rfl
  closes _ := rfl
  ends _ := by
    rintro _ ⟨⟩
    exact .inr (.inr (.inr rfl))

variable {opening closing : Char} {first last : Token}

/-- What stands between two brackets, with blanks before the second one. -/
theorem Brackets.spells (hbrackets : Brackets opening closing first last)
    (h : Spells chars tokens) {blanks : List Char} (hblanks : Blank blanks) :
    Spells (opening :: chars ++ blanks ++ [closing]) (first :: tokens ++ [last]) := by
  intro rest hrest
  have hfirst := tokens?_of_takeToken
    (hbrackets.opens (ofChars chars ++ (ofChars blanks ++ (ofChars [closing] ++ rest))))
  rw [h _ (ends_blank hblanks (hbrackets.ends rest)), tokens?_blank hblanks,
    tokens?_of_takeToken (hbrackets.closes rest), Option.map_map, Option.map_map] at hfirst
  have hchars : ofChars (opening :: chars ++ blanks ++ [closing]) ++ rest =
      ofChars [opening] ++ (ofChars chars ++ (ofChars blanks ++ (ofChars [closing] ++ rest))) := by
    rw [← List.singleton_append, ofChars_append, ofChars_append, ofChars_append]
    simp only [List.append_assoc]
  rw [hchars]
  refine hfirst.trans (congrArg (fun f => (tokens? rest).map f) (funext fun after => ?_))
  simp

/-- A container without blanks. -/
theorem Brackets.spells_line (hbrackets : Brackets opening closing first last)
    (h : Spells chars tokens) : Spells (opening :: chars ++ [closing]) (first :: tokens ++ [last]) := by
  have hline := hbrackets.spells h blank_nil
  rwa [List.append_nil] at hline

/-- A container with a line for each thing it holds. -/
theorem Brackets.spells_block {α : Type} (hbrackets : Brackets opening closing first last)
    {items : List α} {write : α → List Char} {spelled : α → List Token} (depth : Nat)
    (h : ∀ item ∈ items, Spells (write item) (spelled item)) :
    Spells (Value.block opening closing depth (items.map write))
      (first :: Tree.joinTokens (items.map spelled) ++ [last]) := by
  rw [Value.block]
  cases items with
  | nil => exact hbrackets.spells_line spells_nil
  | cons item items =>
      rw [if_neg (by simp), List.map_map]
      exact hbrackets.spells
        (spells_joinComma fun item hmem => (h item hmem).blank (blank_newLine _))
        (blank_newLine depth)

/-! ### The two layouts -/

namespace Value

mutual

/-- The tree that is read where a value is written. -/
def tree : Value → Tree
  | .null => .null
  | .bool value => .bool value
  | .number value => .number value.numeral
  | .string value => .string (piecesOf value)
  | .array items => .array (itemTrees items)
  | .object members => .object (memberTrees members)

def itemTrees : List Value → List Tree
  | [] => []
  | item :: rest => tree item :: itemTrees rest

def memberTrees : List (String × Value) → List (List Piece × Tree)
  | [] => []
  | (key, value) :: rest => (piecesOf key, tree value) :: memberTrees rest

end

/-- What holds of containers if it holds of what they hold, holds of every value. -/
@[elab_as_elim]
theorem induction {P : Value → Prop} (null : P .null) (bool : ∀ value, P (.bool value))
    (number : ∀ value, P (.number value)) (string : ∀ value, P (.string value))
    (array : ∀ items, (∀ item ∈ items, P item) → P (.array items))
    (object : ∀ members, (∀ member ∈ members, P member.2) → P (.object members)) (value : Value) :
    P value :=
  @Value.rec P (fun items => ∀ item ∈ items, P item)
    (fun members => ∀ member ∈ members, P member.2)
    (fun member => P member.2) null bool number string array object nofun
    (fun _ _ hitem hitems => List.forall_mem_cons.mpr ⟨hitem, hitems⟩) nofun
    (fun _ _ hmember hmembers => List.forall_mem_cons.mpr ⟨hmember, hmembers⟩)
    (fun _ _ hvalue => hvalue) value

theorem itemTrees_eq (items : List Value) : itemTrees items = items.map tree :=
  eq_map_of_cons rfl (fun _ _ => rfl) items

theorem memberTrees_eq (members : List (String × Value)) :
    memberTrees members = members.map fun member => (piecesOf member.1, member.2.tree) :=
  eq_map_of_cons rfl (fun _ _ => rfl) members

theorem tokens_array (items : List Value) :
    (Tree.array (itemTrees items)).tokens =
      .openArray :: Tree.joinTokens (items.map fun item => item.tree.tokens) ++ [.closeArray] := by
  rw [Tree.tokens, Tree.itemTokens_eq, itemTrees_eq, List.map_map]
  rfl

theorem tokens_object (members : List (String × Value)) :
    (Tree.object (memberTrees members)).tokens =
      .openObject :: Tree.joinTokens (members.map fun member =>
        .string (piecesOf member.1) :: .colon :: member.2.tree.tokens) ++ [.closeObject] := by
  rw [Tree.tokens, Tree.memberTokens_eq, memberTrees_eq, List.map_map]
  rfl

theorem compactItems_eq (items : List Value) : compactItems items = items.map compactChars :=
  eq_map_of_cons rfl (fun _ _ => rfl) items

theorem compactMembers_eq (members : List (String × Value)) :
    compactMembers members =
      members.map fun member => stringChars member.1 ++ ':' :: compactChars member.2 :=
  eq_map_of_cons rfl (fun _ _ => rfl) members

theorem spells_compactChars (value : Value) : Spells value.compactChars value.tree.tokens := by
  induction value using Value.induction with
  | null => exact spells_token fun _ _ => rfl
  | bool value => cases value <;> exact spells_token fun _ _ => rfl
  | number value => exact spells_token fun _ hrest => takeToken_number value hrest
  | string value => exact spells_token fun _ _ => takeToken_string value _
  | array items ih =>
      rw [compactChars, compactItems_eq, tree, tokens_array]
      exact brackets_array.spells_line (spells_joinComma ih)
  | object members ih =>
      rw [compactChars, compactMembers_eq, tree, tokens_object]
      exact brackets_object.spells_line
        (spells_joinComma fun member hmem => spells_member (ih member hmem))

theorem prettyItems_eq (depth : Nat) (items : List Value) :
    prettyItems depth items = items.map (prettyChars depth) :=
  eq_map_of_cons rfl (fun _ _ => rfl) items

theorem prettyMembers_eq (depth : Nat) (members : List (String × Value)) :
    prettyMembers depth members =
      members.map fun member => stringChars member.1 ++ ':' :: ' ' :: prettyChars depth member.2 :=
  eq_map_of_cons rfl (fun _ _ => rfl) members

theorem spells_prettyChars (value : Value) (depth : Nat) :
    Spells (value.prettyChars depth) value.tree.tokens := by
  induction value using Value.induction generalizing depth with
  | array items ih =>
      rw [prettyChars, prettyItems_eq, tree, tokens_array]
      exact brackets_array.spells_block depth fun item hmem => ih item hmem _
  | object members ih =>
      have hspace : Blank [' '] := fun c hc => .inl (List.mem_singleton.mp hc)
      rw [prettyChars, prettyMembers_eq, tree, tokens_object]
      exact brackets_object.spells_block depth fun member hmem =>
        spells_member ((ih member hmem _).blank hspace)
  | _ => exact spells_compactChars _

theorem parse?_ofString {chars : List Char} {value : Value} (h : Spells chars value.tree.tokens) :
    Tree.parse? (Bytes.ofString (String.ofList chars)) = some value.tree := by
  have hread := h [] nofun
  rw [List.append_nil, tokens?, Option.map_some, List.append_nil] at hread
  rw [Tree.parse?, Bytes.ofString_ofList]
  exact (congrArg (Option.bind · Tree.ofTokens?) hread).trans (Tree.ofTokens?_tokens value.tree)

/-- **A value is read where it is written on one line.** -/
theorem parse?_compact (value : Value) :
    Tree.parse? (Bytes.ofString value.compact) = some value.tree :=
  parse?_ofString value.spells_compactChars

/-- **A value is read where it is written over several lines.** -/
theorem parse?_pretty (value : Value) :
    Tree.parse? (Bytes.ofString value.pretty) = some value.tree :=
  parse?_ofString (value.spells_prettyChars 0)

end Value

end ControlPlane.Json
