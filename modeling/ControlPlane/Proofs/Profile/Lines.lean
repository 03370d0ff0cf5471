import ControlPlane.Proofs.Profile.Reader

/-!
# Profile files are read line by line

A line of blanks or a comment leaves everything as it was, a header opens a section, and a pair
joins the section that is open. What a line is read as depends on no other line: no line is
indented, so none is taken for the rest of the one before it.
-/

namespace ControlPlane.Profile

open Cursor

/-! ### Lines -/

/-- What may be written as the name of a profile. -/
structure IsName (name : String) : Prop where
  plain : Plain name.toList
  not_empty : name.toList ≠ []
  unclosed : ']' ∉ name.toList

instance (name : String) : Decidable (IsName name) :=
  decidable_of_iff (Plain name.toList ∧ name.toList ≠ [] ∧ ']' ∉ name.toList)
    ⟨fun ⟨plain, not_empty, unclosed⟩ => ⟨plain, not_empty, unclosed⟩,
      fun ⟨plain, not_empty, unclosed⟩ => ⟨plain, not_empty, unclosed⟩⟩

/-- What may be written as a key. -/
structure IsKey (key : String) : Prop where
  plain : Plain key.toList
  not_empty : key.toList ≠ []
  unseparated : ∀ c ∈ key.toList, isSeparator c = false
  start : key.toList.head? ≠ some '[' ∧ key.toList.head? ≠ some ';' ∧ key.toList.head? ≠ some '#'

instance (key : String) : Decidable (IsKey key) :=
  decidable_of_iff (Plain key.toList ∧ key.toList ≠ [] ∧
      key.toList.all (isSeparator · = false) = true ∧ key.toList.head? ≠ some '[' ∧
        key.toList.head? ≠ some ';' ∧ key.toList.head? ≠ some '#')
    ⟨fun ⟨plain, not_empty, unseparated, start⟩ =>
        ⟨plain, not_empty, by simpa using unseparated, start⟩,
      fun ⟨plain, not_empty, unseparated, start⟩ =>
        ⟨plain, not_empty, by simpa using unseparated, start⟩⟩

/-- A line of a profile file. -/
inductive Line where
  | blank (text : String)
  | comment (mark : Char) (text : String)
  | header (name : String)
  | pair (key value : String)
  deriving DecidableEq, Repr

namespace Line

def chars : Line → List Char
  | .blank text => text.toList
  | .comment mark text => mark :: text.toList
  | .header name => '[' :: (name.toList ++ [']'])
  | .pair key value => key.toList ++ ' ' :: '=' :: ' ' :: value.toList

/-- What a line may be made of. -/
def WellFormed : Line → Prop
  | .blank text => ∀ c ∈ text.toList, isIndent c = true
  | .comment mark text => (mark = ';' ∨ mark = '#') ∧ '\n' ∉ text.toList
  | .header name => IsName name
  | .pair key value => IsKey key ∧ Plain value.toList

instance : DecidablePred WellFormed
  | .blank text => decidable_of_iff (text.toList.all isIndent = true) List.all_eq_true
  | .comment mark text =>
    inferInstanceAs (Decidable ((mark = ';' ∨ mark = '#') ∧ '\n' ∉ text.toList))
  | .header name => inferInstanceAs (Decidable (IsName name))
  | .pair key value => inferInstanceAs (Decidable (IsKey key ∧ Plain value.toList))

end Line

/-- What a line does to what has been read. -/
def State.after (state : State) : Line → State
  | .blank _ => state
  | .comment _ _ => state
  | .header name => state.openSection name.toList
  | .pair key value => (state.withKey key.toList).addValue value.toList

/-- The lines that follow another one. -/
def following (lines : List Line) : List Char :=
  lines.flatMap fun line => '\n' :: line.chars

/-! ### Blanks before a line -/

theorem not_lineEnd_of_not_blank {c : Char} (h : Text.isBlank c = false) :
    ¬ (c = '\n' ∨ c = '\r') := by
  rintro (rfl | rfl)
  · exact absurd h (by decide)
  · exact absurd h (by decide)

theorem isIndent_of_not_blank {c : Char} (h : Text.isBlank c = false) : isIndent c = false := by
  rw [Bool.eq_false_iff]
  intro hindent
  simp only [isIndent, Bool.or_eq_true, decide_eq_true_eq] at hindent
  rcases hindent with rfl | rfl
  · exact absurd h (by decide)
  · exact absurd h (by decide)

theorem skipBlank_of_not_blank {c : Char} (h : Text.isBlank c = false) (previous : Option Char)
    (rest : List Char) : skipBlank previous (c :: rest) = ⟨previous, c :: rest⟩ := by
  rw [skipBlank, if_neg (not_lineEnd_of_not_blank h), h]
  rfl

theorem skipBlank_next {rest : List Char} (h : isIndented rest = false) (previous : Option Char) :
    skipBlank previous ('\n' :: rest) = skipBlank (some '\n') rest := by
  rw [skipBlank, if_pos (.inl rfl), h]
  rfl

theorem skipBlank_indent {front : List Char} (h : ∀ c ∈ front, isIndent c = true)
    (previous : Option Char) (rest : List Char) :
    ∃ place, skipBlank previous (front ++ rest) = skipBlank place rest := by
  induction front generalizing previous with
  | nil => exact ⟨previous, rfl⟩
  | cons c front ih =>
      obtain ⟨hc, hrest⟩ := List.forall_mem_cons.mp h
      obtain ⟨place, hskip⟩ := ih hrest (some c)
      refine ⟨place, Eq.trans ?_ hskip⟩
      simp only [isIndent, Bool.or_eq_true, decide_eq_true_eq] at hc
      rcases hc with rfl | rfl <;> rfl

namespace Line

theorem WellFormed.blank_or_head {line : Line} (h : line.WellFormed) :
    (∃ text, line = .blank text ∧ ∀ c ∈ text.toList, isIndent c = true) ∨
      ∃ c rest, line.chars = c :: rest ∧ Text.isBlank c = false := by
  cases line with
  | blank text => exact .inl ⟨text, rfl, h⟩
  | comment mark text =>
      obtain ⟨hmark, -⟩ := h
      refine .inr ⟨mark, text.toList, rfl, ?_⟩
      rcases hmark with rfl | rfl <;> decide
  | header name => exact .inr ⟨'[', _, rfl, by decide⟩
  | pair key value =>
      obtain ⟨hkey, -⟩ := h
      obtain ⟨c, rest, hchars⟩ := List.exists_cons_of_ne_nil hkey.not_empty
      have htrimmed := hkey.plain.trimmed
      rw [hchars] at htrimmed
      refine .inr ⟨c, rest ++ ' ' :: '=' :: ' ' :: value.toList, ?_, htrimmed.not_blank⟩
      rw [chars, hchars, List.cons_append]

theorem WellFormed.not_indented {line : Line} (h : line.WellFormed) {tail : List Char}
    (htail : AtLineEnd tail) : isIndented (line.chars ++ tail) = false := by
  rcases h.blank_or_head with ⟨text, rfl, htext⟩ | ⟨c, rest, hchars, hc⟩
  · have hdrop : (text.toList ++ tail).dropWhile isIndent = tail := by
      rw [List.dropWhile_append_of_pos htext]
      cases htail <;> rfl
    simp only [chars, isIndented, hdrop]
    cases htail with
    | last => exact Bool.and_false _
    | next rest hrest => simp
  · have hindent := isIndent_of_not_blank hc
    rw [hchars, List.cons_append, isIndented, List.dropWhile_cons_of_neg (by simp [hindent])]
    simp

end Line

theorem atLineEnd_following {lines : List Line} (h : ∀ line ∈ lines, line.WellFormed) :
    AtLineEnd (following lines) := by
  induction lines with
  | nil => exact .last
  | cons line lines ih =>
      obtain ⟨hline, hlines⟩ := List.forall_mem_cons.mp h
      exact .next _ (hline.not_indented (ih hlines))

/-! ### One line -/

theorem readItems_of_readItem {state after : State} {previous : Option Char} {c : Char}
    {rest : List Char} {cursor : Cursor}
    (h : readItem state previous c rest = some (after, cursor)) :
    readItems state previous (c :: rest) =
      readItems after (skipBlank cursor.previous cursor.rest).previous
        (skipBlank cursor.previous cursor.rest).rest := by
  rw [readItems]
  split
  · next hnone => rw [h] at hnone; cases hnone
  · next heq =>
      rw [h] at heq
      obtain ⟨rfl, rfl⟩ := Prod.mk.inj (Option.some.inj heq)
      rfl

section

variable {tail : List Char} (state : State)

theorem readItems_comment (htail : AtLineEnd tail) {previous : Option Char}
    (hstart : previous = none ∨ previous = some '\n') {mark : Char}
    (hmark : mark = ';' ∨ mark = '#') {text : List Char} (htext : '\n' ∉ text) :
    ∃ place, readItems state previous (mark :: (text ++ tail)) =
      readItems state (skipBlank place tail).previous (skipBlank place tail).rest := by
  have hlineStart : (Cursor.mk previous (text ++ tail)).isLineStart = true := by
    rcases hstart with rfl | rfl <;> rfl
  have hall : ∀ c ∈ text, decide (c ≠ '\n') = true := by
    intro c hc
    exact decide_eq_true fun heq => htext (heq ▸ hc)
  have hend : ∀ c, tail.head? = some c → decide (c ≠ '\n') = false := by
    intro c hc
    cases htail with
    | last => cases hc
    | next rest hrest =>
        obtain rfl := Option.some.inj hc
        rfl
  obtain ⟨place, hskip⟩ := skipWhile_append hall hend (some mark)
  have hread : readItem state previous mark (text ++ tail) =
      some (state, (Cursor.mk place tail).next) := by
    rw [readItem, if_pos hmark, if_pos hlineStart, hskip]
  refine ⟨place, (readItems_of_readItem hread).trans ?_⟩
  cases htail with
  | last => rfl
  | next rest hrest => rw [skipBlank_next hrest]; rfl

theorem readItems_header {name : List Char} (hname : Plain name) (hclosed : ']' ∉ name)
    (previous : Option Char) :
    readItems state previous ('[' :: (name ++ ']' :: tail)) =
      readItems (state.openSection name) (skipBlank (some ']') tail).previous
        (skipBlank (some ']') tail).rest := by
  obtain ⟨place, hread⟩ := @readUntil_append (· = ']') false _ (']' :: tail)
    (fun c hc => ⟨decide_eq_false fun heq => hclosed (heq ▸ hc),
      ne_backslash_of_isPlain (hname.isPlain c hc)⟩)
    (readUntil_mark (by rfl) false tail) (some '[')
  have hitem : readItem state previous '[' (name ++ ']' :: tail) =
      some (state.openSection name, (Cursor.mk place (']' :: tail)).next) := by
    rw [readItem, if_neg (by decide), if_pos rfl, hread]
  exact readItems_of_readItem hitem

theorem readItem_key {key : String} (hkey : IsKey key) {c : Char} {rest : List Char}
    (hchars : key.toList = c :: rest) (previous : Option Char) (text : List Char) :
    ∃ place, readItem state previous c (rest ++ ' ' :: '=' :: text) =
      some (state.withKey key.toList, ⟨place, '=' :: text⟩) := by
  have hfront : ∀ d ∈ key.toList ++ [' '], isSeparator d = false ∧ d ≠ '\\' := by
    intro d hd
    rcases List.mem_append.mp hd with hd | hd
    · exact ⟨hkey.unseparated d hd, ne_backslash_of_isPlain (hkey.plain.isPlain d hd)⟩
    · rw [List.mem_singleton.mp hd]
      decide
  obtain ⟨place, hread⟩ := readUntil_append hfront
    (@readUntil_mark isSeparator '=' (by rfl) false text) previous
  have htext : key.toList ++ [' '] ++ '=' :: text = c :: (rest ++ ' ' :: '=' :: text) := by
    rw [hchars, List.append_assoc]
    rfl
  obtain ⟨hsection, hcomment, hhash⟩ := hkey.start
  rw [hchars] at hsection hcomment hhash
  have hseparator := hkey.unseparated c (by rw [hchars]; exact List.mem_cons_self ..)
  refine ⟨place, ?_⟩
  rw [readItem, if_neg (not_or.mpr ⟨ne_of_apply_ne some hcomment, ne_of_apply_ne some hhash⟩),
    if_neg (ne_of_apply_ne some hsection), if_neg (by simp [hseparator]), ← htext, hread]
  simp only [State.withKey, Text.trim_append_blank (c := ' ') (by decide)]

theorem readItem_value {key : String} (hkey : IsKey key) {value : List Char} (hvalue : Plain value)
    (htail : AtLineEnd tail) (previous : Option Char) :
    ∃ place, readItem (state.withKey key.toList) previous '=' (' ' :: (value ++ tail)) =
      some ((state.withKey key.toList).addValue value, ⟨place, tail⟩) := by
  obtain ⟨place, hread⟩ := readValue_plain hvalue htail (some '=')
  have hdue : (state.withKey key.toList).key.isEmpty = false := by
    rw [State.withKey, hkey.plain.trimmed.trim_eq, List.isEmpty_eq_false_iff]
    exact hkey.not_empty
  refine ⟨place, ?_⟩
  rw [readItem, if_neg (by decide), if_neg (by decide), if_pos (by rfl), hdue, hread]
  rfl

theorem readItems_pair {key : String} (hkey : IsKey key) {value : List Char} (hvalue : Plain value)
    (htail : AtLineEnd tail) (previous : Option Char) :
    ∃ place, readItems state previous (key.toList ++ ' ' :: '=' :: ' ' :: (value ++ tail)) =
      readItems ((state.withKey key.toList).addValue value) (skipBlank place tail).previous
        (skipBlank place tail).rest := by
  obtain ⟨c, rest, hchars⟩ := List.exists_cons_of_ne_nil hkey.not_empty
  obtain ⟨before, hread⟩ := readItem_key state hkey hchars previous (' ' :: (value ++ tail))
  obtain ⟨place, hvalued⟩ := readItem_value state hkey hvalue htail before
  refine ⟨place, ?_⟩
  calc readItems state previous (key.toList ++ ' ' :: '=' :: ' ' :: (value ++ tail))
    _ = readItems state previous (c :: (rest ++ ' ' :: '=' :: ' ' :: (value ++ tail))) := by
        rw [hchars, List.cons_append]
    _ = readItems (state.withKey key.toList) before ('=' :: ' ' :: (value ++ tail)) := by
        rw [readItems_of_readItem hread, skipBlank_of_not_blank (by decide)]
    _ = _ := readItems_of_readItem hvalued

/-- **One line is read as it is written.** -/
theorem readItems_line {line : Line} (h : line.WellFormed) (htail : AtLineEnd tail)
    {previous : Option Char} (hstart : previous = none ∨ previous = some '\n') :
    ∃ place,
      readItems state (skipBlank previous (line.chars ++ tail)).previous
          (skipBlank previous (line.chars ++ tail)).rest =
        readItems (state.after line) (skipBlank place tail).previous
          (skipBlank place tail).rest := by
  -- A line that holds something starts right away, so there is nothing to skip before it.
  have hstay (hsolid : ∀ text, line ≠ .blank text) :
      skipBlank previous (line.chars ++ tail) = ⟨previous, line.chars ++ tail⟩ := by
    rcases h.blank_or_head with ⟨text, hblank, -⟩ | ⟨c, rest, hchars, hc⟩
    · exact absurd hblank (hsolid text)
    · rw [hchars, List.cons_append, skipBlank_of_not_blank hc]
  cases line with
  | blank text =>
      obtain ⟨place, hskip⟩ := skipBlank_indent h previous tail
      exact ⟨place, by rw [Line.chars, hskip, State.after]⟩
  | comment mark text =>
      rw [hstay nofun]
      exact readItems_comment state htail hstart h.1 h.2
  | header name =>
      refine ⟨some ']', ?_⟩
      rw [hstay nofun, Line.chars, List.cons_append, List.append_assoc]
      exact readItems_header state (IsName.plain h) (IsName.unclosed h) previous
  | pair key value =>
      rw [hstay nofun, Line.chars, List.append_assoc]
      exact readItems_pair state h.1 h.2 htail previous

end

/-! ### Whole files -/

/-- Lines are read one after the other, whatever stands before them. -/
theorem readItems_lines {line : Line} {lines : List Line}
    (h : ∀ written ∈ line :: lines, written.WellFormed) (state : State) {previous : Option Char}
    (hstart : previous = none ∨ previous = some '\n') :
    readItems state (skipBlank previous (line.chars ++ following lines)).previous
        (skipBlank previous (line.chars ++ following lines)).rest =
      some ((line :: lines).foldl State.after state) := by
  induction lines generalizing line state previous with
  | nil =>
      obtain ⟨hline, -⟩ := List.forall_mem_cons.mp h
      obtain ⟨place, hread⟩ := readItems_line state hline .last hstart
      rw [following, List.flatMap_nil, hread, skipBlank, readItems]
      rfl
  | cons next lines ih =>
      obtain ⟨hline, hlines⟩ := List.forall_mem_cons.mp h
      have htail := atLineEnd_following hlines
      obtain ⟨place, hread⟩ := readItems_line state hline htail hstart
      have hnext := (List.forall_mem_cons.mp hlines).1.not_indented
        (atLineEnd_following (List.forall_mem_cons.mp hlines).2)
      have hskip : skipBlank place (following (next :: lines)) =
          skipBlank (some '\n') (next.chars ++ following lines) := skipBlank_next hnext place
      rw [hread, hskip, ih hlines (state.after line) (.inr rfl)]
      rfl

/-- A file of lines. -/
def textOf (lines : List Line) : String :=
  String.ofList (List.intercalate ['\n'] (lines.map Line.chars))

theorem toList_textOf (line : Line) (lines : List Line) :
    (textOf (line :: lines)).toList = line.chars ++ following lines := by
  rw [textOf, String.toList_ofList]
  induction lines generalizing line with
  | nil => simp [List.intercalate, following]
  | cons next lines ih =>
      rw [List.map_cons, List.map_cons, List.intercalate_cons_cons, ← List.map_cons, ih,
        List.append_assoc]
      rfl

theorem start_line {line : Line} (h : line.WellFormed) {tail : List Char} (htail : AtLineEnd tail) :
    start (line.chars ++ tail) = skipBlank none (line.chars ++ tail) := by
  have hindented := h.not_indented htail
  rcases h.blank_or_head with ⟨text, rfl, htext⟩ | ⟨c, rest, hchars, hc⟩
  · rw [Line.chars] at *
    cases hchars : text.toList with
    | nil =>
        cases htail with
        | last => rfl
        | next rest hrest => exact (skipBlank_next hrest none).symm
    | cons c rest =>
        rw [hchars] at htext hindented
        have hindent := htext c (List.mem_cons_self ..)
        have hend : ¬ (c = '\n' ∨ c = '\r') := by
          rintro (rfl | rfl) <;> exact absurd hindent (by decide)
        rw [List.cons_append] at *
        rw [start, if_neg hend, hindented, if_pos ⟨hindent, rfl⟩]
  · have hindent := isIndent_of_not_blank hc
    rw [hchars, List.cons_append, skipBlank_of_not_blank hc, start,
      if_neg (not_lineEnd_of_not_blank hc), if_neg (by simp [hindent])]

/-- **A file is read as its lines are written.** -/
theorem parse?_textOf {lines : List Line} (h : ∀ line ∈ lines, line.WellFormed) :
    File.parse? (textOf lines) = some (lines.foldl State.after {}).file := by
  cases lines with
  | nil =>
      rw [File.parse?]
      simp [textOf, List.intercalate, start, readItems]
  | cons line lines =>
      obtain ⟨hline, hlines⟩ := List.forall_mem_cons.mp h
      rw [File.parse?, toList_textOf, start_line hline (atLineEnd_following hlines),
        readItems_lines h {} (.inl rfl)]
      rfl

end ControlPlane.Profile
