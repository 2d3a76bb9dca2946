import Mathlib.Data.List.Basic
import NameCarry.Listing
import NameCarry.Text.Lines

/-!
# Lines that are written and read again

A line of words, written with a space between two words, has these words
(`Text.tokens_intercalate`). A text of such lines, each ended by a line feed, has these lines, and
all of them carry content unless they are marked as comments (`Text.contentLines_joinLines`).
-/

namespace NameCarry.Text

/-- A text that is one word: not empty, and without blanks. -/
structure IsWord (word : String) : Prop where
  /-- The text is not empty. -/
  ne_empty : word ≠ ""
  /-- No character is a blank. -/
  notBlank : ∀ c ∈ word.toList, isBlank c = false

theorem IsWord.toList_ne_nil {word : String} (h : IsWord word) : word.toList ≠ [] := by
  intro hnil
  exact h.ne_empty (String.toList_inj.1 hnil)

theorem IsWord.head {word : String} (h : IsWord word) :
    ∃ c cs, word.toList = c :: cs ∧ isBlank c = false := by
  obtain ⟨c, cs, hcs⟩ := List.exists_cons_of_ne_nil h.toList_ne_nil
  exact ⟨c, cs, hcs, h.notBlank c (hcs ▸ List.mem_cons_self ..)⟩

/-! ## Words -/

theorem words_of_isWord {word : String} (h : IsWord word) : words word.toList = [word.toList] := by
  rw [words, List.splitOnP_eq_singleton h.notBlank]
  simp [h.toList_ne_nil]

theorem words_append_blank (cs : List Char) {blank : Char} (hblank : isBlank blank)
    (rest : List Char) : words (cs ++ blank :: rest) = words cs ++ words rest := by
  unfold words
  rw [List.splitOnP_append_cons _ _ hblank, List.filter_append]

theorem words_append_cons {word : String} (h : IsWord word) {blank : Char} (hblank : isBlank blank)
    (rest : List Char) : words (word.toList ++ blank :: rest) = word.toList :: words rest := by
  rw [words_append_blank _ hblank, words_of_isWord h]
  rfl

/-- The words of a line are the words that it was made of. -/
theorem tokens_intercalate {ws : List String} (h : ∀ word ∈ ws, IsWord word) :
    tokens (" ".intercalate ws) = ws := by
  suffices words (" ".intercalate ws).toList = ws.map String.toList by
    rw [tokens, this, List.map_map]
    simp
  induction ws with
  | nil => rfl
  | cons word ws ih =>
    have hword := h word (List.mem_cons_self ..)
    cases ws with
    | nil => simpa using words_of_isWord hword
    | cons next ws =>
      have hrest := ih fun other hother => h other (List.mem_cons_of_mem _ hother)
      have hspace : isBlank ' ' := by decide
      rw [String.intercalate_cons_cons, List.map_cons, ← hrest, ← words_append_cons hword hspace]
      simp

/-! ## Lines of a text -/

/-- A text that is one line: no line feed in it, and no carriage return, which would be taken for
the end of the line. -/
def IsLine (line : String) : Prop :=
  '\n' ∉ line.toList ∧ '\r' ∉ line.toList

/-- The lines of a text are built up from its end, one character after the other. -/
theorem linesWithEnds_induction {motive : List (List Char) → Prop} (nil : motive [])
    (feed : ∀ lines, motive lines → motive (['\n'] :: lines))
    (single : ∀ c, c ≠ '\n' → motive [[c]])
    (cons : ∀ c line rest, c ≠ '\n' → motive (line :: rest) → motive ((c :: line) :: rest))
    (text : List Char) : motive (linesWithEnds text) := by
  unfold linesWithEnds
  induction text with
  | nil => exact nil
  | cons c cs ih =>
    rw [List.foldr_cons]
    generalize List.foldr consLine [] cs = lines at ih ⊢
    unfold consLine
    split
    · next hc =>
      rw [hc]
      exact feed lines ih
    · next hc =>
      cases lines with
      | nil => exact single c hc
      | cons line rest => exact cons c line rest hc ih

theorem linesWithEnds_append_cons {line : List Char} (h : '\n' ∉ line) (rest : List Char) :
    linesWithEnds (line ++ '\n' :: rest) = (line ++ ['\n']) :: linesWithEnds rest := by
  unfold linesWithEnds
  induction line with
  | nil => rfl
  | cons c line ih =>
    obtain ⟨hc, hline⟩ := not_or.1 (mt List.mem_cons.2 h)
    rw [List.cons_append, List.foldr_cons, ih hline, consLine, if_neg (Ne.symm hc)]
    rfl

theorem dropLineEnd_append {line : List Char} (h : '\r' ∉ line) :
    dropLineEnd (line ++ ['\n']) = line := by
  have hlast : line.getLast? ≠ some '\r' := fun hlast => h (List.mem_of_getLast? hlast)
  rw [dropLineEnd, List.getLast?_concat, if_pos rfl, List.dropLast_concat, dropCarriageReturn,
    if_neg hlast]

/-- The lines of a text are the lines that it was made of. -/
theorem linesOf_joinLines {lines : List String} (h : ∀ line ∈ lines, IsLine line) :
    linesOf (joinLines lines) = lines := by
  suffices Text.lines (joinLines lines).toList = lines.map String.toList by
    rw [linesOf, this, List.map_map]
    simp
  unfold Text.lines joinLines
  induction lines with
  | nil => rfl
  | cons line lines ih =>
    obtain ⟨hfeed, hreturn⟩ := h line (List.mem_cons_self ..)
    have hrest := ih fun other hother => h other (List.mem_cons_of_mem _ hother)
    have htext : (String.join ((line :: lines).map (· ++ "\n"))).toList =
        line.toList ++ '\n' :: (String.join (lines.map (· ++ "\n"))).toList := by
      simp
    rw [htext, linesWithEnds_append_cons hfeed, List.map_cons, hrest, dropLineEnd_append hreturn,
      List.map_cons]

/-! ## The numbers of lines -/

theorem mem_contentLines_iff {text : String} {number : Nat} {line : String} :
    (number, line) ∈ contentLines text ↔
      1 ≤ number ∧ (linesOf text)[number - 1]? = some line ∧ isIgnored line = false := by
  unfold contentLines
  simp only [List.mem_filterMap, Prod.exists, List.mk_mem_zipIdx_iff_le_and_getElem?_sub]
  constructor
  · rintro ⟨other, place, ⟨hplace, hget⟩, hentry⟩
    split at hentry
    · cases hentry
    · next hignored =>
      cases hentry
      exact ⟨hplace, hget, by simpa using hignored⟩
  · rintro ⟨hnumber, hget, hignored⟩
    exact ⟨line, number, ⟨hnumber, hget⟩, by simp [hignored]⟩

/-- The numbers of the lines increase. -/
theorem pairwise_contentLines (text : String) :
    (contentLines text).Pairwise fun line other => line.1 < other.1 := by
  have hnumbers : ((linesOf text).zipIdx 1).Pairwise fun line other => line.2 < other.2 := by
    rw [← List.pairwise_map (f := Prod.snd) (R := (· < ·)), List.zipIdx_map_snd]
    exact List.pairwise_lt_range'
  refine hnumbers.filterMap _ ?_
  rintro ⟨line, number⟩ ⟨other, place⟩ hlt entry hentry next hnext
  rw [Option.ite_none_left_eq_some] at hentry hnext
  obtain ⟨-, hentry⟩ := hentry
  obtain ⟨-, hnext⟩ := hnext
  cases hentry
  cases hnext
  exact hlt

/-! ## Lines of words -/

theorem isLine_intercalate {ws : List String} (h : ∀ word ∈ ws, IsWord word) :
    IsLine (" ".intercalate ws) := by
  have hchars : ∀ c ∈ (" ".intercalate ws).toList, c = ' ' ∨ isBlank c = false := by
    induction ws with
    | nil => simp
    | cons word ws ih =>
      have hword := h word (List.mem_cons_self ..)
      have hrest := ih fun other hother => h other (List.mem_cons_of_mem _ hother)
      cases ws with
      | nil => simpa using fun c hc => Or.inr (hword.notBlank c hc)
      | cons next ws =>
        intro c hc
        rw [String.intercalate_cons_cons, String.toList_append, String.toList_append,
          List.mem_append, List.mem_append] at hc
        rcases hc with (hc | hc) | hc
        · exact .inr (hword.notBlank c hc)
        · exact .inl (List.mem_singleton.1 hc)
        · exact hrest c hc
  constructor
  · intro hfeed
    rcases hchars _ hfeed with hspace | hblank
    · exact absurd hspace (by decide)
    · exact absurd hblank (by decide)
  · intro hreturn
    rcases hchars _ hreturn with hspace | hblank
    · exact absurd hspace (by decide)
    · exact absurd hblank (by decide)

/-- A line of words carries content, unless its first word starts like a comment. -/
theorem isIgnored_intercalate {word : String} {ws : List String} (h : IsWord word)
    (hmark : '#' ∉ word.toList) : isIgnored (" ".intercalate (word :: ws)) = false := by
  obtain ⟨c, cs, hcs, hc⟩ := h.head
  have hne : c ≠ '#' := by
    rintro rfl
    exact hmark (hcs ▸ List.mem_cons_self ..)
  have hline : ∃ rest, (" ".intercalate (word :: ws)).toList = c :: rest := by
    cases ws with
    | nil => exact ⟨cs, by rw [String.intercalate_singleton, hcs]⟩
    | cons next ws =>
      rw [String.intercalate_cons_cons, String.toList_append, String.toList_append, hcs]
      exact ⟨_, rfl⟩
  obtain ⟨rest, hrest⟩ := hline
  simp [isIgnored, hrest, hc, hne]

/-- A line of words that carries content: its first word does not start like a comment. -/
def IsRow (line : String) : Prop :=
  ∃ word ws, " ".intercalate (word :: ws) = line ∧ (∀ other ∈ word :: ws, IsWord other) ∧
    '#' ∉ word.toList

/-- The lines of a text that carry content are the rows that it was made of. -/
theorem contentLines_joinLines {lines : List String} (h : ∀ line ∈ lines, IsRow line) :
    (contentLines (joinLines lines)).map (·.2) = lines := by
  have hline : ∀ line ∈ lines, IsLine line := by
    intro line hmem
    obtain ⟨word, ws, rfl, hwords, -⟩ := h line hmem
    exact isLine_intercalate hwords
  have hcontent : ∀ line ∈ lines, isIgnored line = false := by
    intro line hmem
    obtain ⟨word, ws, rfl, hwords, hmark⟩ := h line hmem
    exact isIgnored_intercalate (hwords word (List.mem_cons_self ..)) hmark
  have hnumbered : contentLines (joinLines lines) =
      (lines.zipIdx 1).map fun line => (line.2, line.1) := by
    unfold contentLines
    rw [linesOf_joinLines hline, ← List.filterMap_eq_map]
    apply List.filterMap_congr
    rintro ⟨line, number⟩ hmem
    obtain ⟨-, -, hget⟩ := List.mem_zipIdx hmem
    have hignored := hcontent line (hget ▸ List.getElem_mem _)
    simp [hignored]
  rw [hnumbered, List.map_map]
  exact List.zipIdx_map_fst 1 lines

end NameCarry.Text
