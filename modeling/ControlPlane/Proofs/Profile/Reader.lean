import ControlPlane.Profile
import Mathlib.Data.List.Basic

/-!
# Plain texts in a profile file

A text without control characters, backslashes and quotation marks, and without blanks at its ends,
is read as it stands: as the name of a section, as a key and as a value.
-/

namespace ControlPlane

/-! ### Blanks at the ends of a text -/

namespace Text

/-- A text that neither starts nor ends with a blank. -/
structure Trimmed (text : List Char) : Prop where
  head : text.head?.any isBlank = false
  last : text.getLast?.any isBlank = false

instance (text : List Char) : Decidable (Trimmed text) :=
  decidable_of_iff (text.head?.any isBlank = false ∧ text.getLast?.any isBlank = false)
    ⟨fun ⟨head, last⟩ => ⟨head, last⟩, fun ⟨head, last⟩ => ⟨head, last⟩⟩

theorem Trimmed.not_blank {c : Char} {rest : List Char} (h : Trimmed (c :: rest)) :
    isBlank c = false :=
  h.head

theorem Trimmed.trimStart_eq {text : List Char} (h : Trimmed text) : trimStart text = text := by
  cases text with
  | nil => rfl
  | cons c rest => exact List.dropWhile_cons_of_neg (by simp [h.not_blank])

theorem Trimmed.trimEnd_eq {text : List Char} (h : Trimmed text) : trimEnd text = text := by
  have hhead : text.reverse.dropWhile isBlank = text.reverse := by
    cases hreverse : text.reverse with
    | nil => rfl
    | cons c rest =>
        have hlast := h.last
        rw [← List.head?_reverse, hreverse] at hlast
        exact List.dropWhile_cons_of_neg (ne_true_of_eq_false hlast)
  rw [trimEnd, dropEndWhile, hhead, List.reverse_reverse]

theorem Trimmed.trim_eq {text : List Char} (h : Trimmed text) : trim text = text := by
  rw [trim, h.trimStart_eq, h.trimEnd_eq]

theorem trim_append_blank {c : Char} (hc : isBlank c = true) (text : List Char) :
    trim (text ++ [c]) = trim text := by
  have hend (front : List Char) : trimEnd (front ++ [c]) = trimEnd front := by
    rw [trimEnd, dropEndWhile, List.reverse_append, List.reverse_singleton, List.singleton_append,
      List.dropWhile_cons_of_pos hc]
    rfl
  rw [trim, trim, trimStart, trimStart, List.dropWhile_append]
  split
  · next hnone =>
      have hblank : [c].dropWhile isBlank = [] := by simp [hc]
      rw [hblank, List.isEmpty_iff.mp hnone]
  · exact hend _

end Text

namespace Profile

open Cursor

/-! ### Plain texts -/

/-- No control character, no backslash and no quotation mark. -/
def isPlain (c : Char) : Bool :=
  0x20 ≤ c.toNat && !(0x7F ≤ c.toNat && c.toNat ≤ 0x9F) && c ≠ '\\' && !isQuote c

/-- A text of plain characters without blanks at its ends. -/
structure Plain (text : List Char) : Prop where
  isPlain : ∀ c ∈ text, isPlain c = true
  trimmed : Text.Trimmed text

instance (text : List Char) : Decidable (Plain text) :=
  decidable_of_iff (text.all Profile.isPlain = true ∧ Text.Trimmed text)
    ⟨fun ⟨isPlain, trimmed⟩ => ⟨List.all_eq_true.mp isPlain, trimmed⟩,
      fun ⟨isPlain, trimmed⟩ => ⟨List.all_eq_true.mpr isPlain, trimmed⟩⟩

theorem isLineEnd_of_isPlain {c : Char} (h : isPlain c = true) : isLineEnd c = false := by
  rw [Bool.eq_false_iff]
  intro hend
  simp only [isLineEnd, Bool.or_eq_true, decide_eq_true_eq] at hend
  rcases hend with rfl | rfl
  · exact absurd h (by decide)
  · exact absurd h (by decide)

theorem ne_backslash_of_isPlain {c : Char} (h : isPlain c = true) : c ≠ '\\' := by
  rintro rfl
  exact absurd h (by decide)

theorem isQuote_of_isPlain {c : Char} (h : isPlain c = true) : isQuote c = false := by
  simp only [isPlain, Bool.and_eq_true, Bool.not_eq_true'] at h
  exact h.2

/-- Where a line ends: at the end of the text, or before a line that is not indented. -/
inductive AtLineEnd : List Char → Prop where
  | last : AtLineEnd []
  | next (rest : List Char) (h : isIndented rest = false) : AtLineEnd ('\n' :: rest)

/-! ### The small readers -/

/-- What has no mark in it is read up to the mark. -/
theorem readUntil_append {stop : Char → Bool} {endStops : Bool} {front tail : List Char}
    (hfront : ∀ c ∈ front, stop c = false ∧ c ≠ '\\')
    (htail : ∀ previous, readUntil stop endStops previous tail = .ok ([], ⟨previous, tail⟩))
    (previous : Option Char) :
    ∃ place, readUntil stop endStops previous (front ++ tail) = .ok (front, ⟨place, tail⟩) := by
  induction front generalizing previous with
  | nil => exact ⟨previous, htail previous⟩
  | cons c front ih =>
      obtain ⟨⟨hstop, hescape⟩, hrest⟩ := List.forall_mem_cons.mp hfront
      obtain ⟨place, hread⟩ := ih hrest (some c)
      refine ⟨place, ?_⟩
      rw [List.cons_append, readUntil]
      simp only [hstop, hescape, hread, Bool.false_eq_true, if_false]
      rfl

theorem readUntil_mark {stop : Char → Bool} {mark : Char} (h : stop mark = true) (endStops : Bool)
    (rest : List Char) (previous : Option Char) :
    readUntil stop endStops previous (mark :: rest) = .ok ([], ⟨previous, mark :: rest⟩) := by
  rw [readUntil, if_pos h]

theorem readUntil_lineEnd {tail : List Char} (h : AtLineEnd tail) (previous : Option Char) :
    readUntil isLineEnd true previous tail = .ok ([], ⟨previous, tail⟩) := by
  cases h with
  | last => rw [readUntil, if_pos rfl]
  | next rest hrest => exact readUntil_mark (by rfl) true rest previous

theorem skipWhile_append {test : Char → Bool} {front tail : List Char}
    (hfront : ∀ c ∈ front, test c = true) (htail : ∀ c, tail.head? = some c → test c = false)
    (previous : Option Char) :
    ∃ place, skipWhile test previous (front ++ tail) = ⟨place, tail⟩ := by
  induction front generalizing previous with
  | nil =>
      refine ⟨previous, ?_⟩
      cases tail with
      | nil => rfl
      | cons c tail => exact if_neg (by simp [htail c rfl])
  | cons c front ih =>
      obtain ⟨hc, hrest⟩ := List.forall_mem_cons.mp hfront
      obtain ⟨place, hskip⟩ := ih hrest (some c)
      exact ⟨place, (if_pos hc).trans hskip⟩

theorem readParts_line {text line : List Char} {previous : Option Char} {cursor : Cursor}
    (hquote : ∀ c, text.head? = some c → isQuote c = false)
    (h : readUntil isLineEnd true previous text = .ok (line, cursor)) :
    readParts true previous text = .ok (Text.trim line, cursor) := by
  cases text with
  | nil =>
      rw [readUntil_lineEnd .last] at h
      obtain ⟨rfl, rfl⟩ := Prod.mk.inj (Except.ok.inj h)
      rw [readParts]
      rfl
  | cons c rest =>
      rw [readParts]
      simp only [hquote c rfl, Bool.false_eq_true, if_false, h, if_true]

/-- **A value is read as it stands.** -/
theorem readValue_plain {value tail : List Char} (hvalue : Plain value) (htail : AtLineEnd tail)
    (previous : Option Char) :
    ∃ place, readValue previous (' ' :: (value ++ tail)) = .ok (value, ⟨place, tail⟩) := by
  have hhead (c : Char) (hc : (value ++ tail).head? = some c) :
      isInlineBlank c = false ∧ isQuote c = false := by
    cases value with
    | nil =>
        cases htail with
        | last => cases hc
        | next rest hrest =>
            obtain rfl := Option.some.inj hc
            exact ⟨by decide, by decide⟩
    | cons d value =>
        obtain rfl := Option.some.inj hc
        constructor
        · rw [isInlineBlank, hvalue.trimmed.not_blank, Bool.false_and]
        · exact isQuote_of_isPlain (hvalue.isPlain d (List.mem_cons_self ..))
  obtain ⟨start, hskip⟩ :=
    @skipWhile_append _ [' '] _ (List.forall_mem_singleton.mpr rfl)
      (fun c hc => (hhead c hc).1) previous
  obtain ⟨place, hread⟩ := readUntil_append
    (fun c hc => ⟨isLineEnd_of_isPlain (hvalue.isPlain c hc),
      ne_backslash_of_isPlain (hvalue.isPlain c hc)⟩) (readUntil_lineEnd htail) start
  refine ⟨place, ?_⟩
  rw [List.singleton_append] at hskip
  simp only [readValue, hskip]
  rw [readParts_line (fun c hc => (hhead c hc).2) hread, hvalue.trimmed.trim_eq]

end Profile

end ControlPlane
