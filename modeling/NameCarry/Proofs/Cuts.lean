import Mathlib.Data.List.Infix
import Mathlib.Data.List.TakeWhile
import NameCarry.Proofs.Lines
import NameCarry.Text.Cut

/-!
# Taking a text apart

What trimming, splitting into words and cutting at a separator give is said by concatenation: a text
is trimmed to `t` if it is `t` with blanks around it (`Text.trim_eq_iff`), it has two words if it is
these words with blanks between and around them (`Text.words_eq_pair_iff`), and it is cut where it
is put together from two parts and the separator, with no place further ahead, or further behind,
where the separator stands (`Text.cutFirst?_eq_some_iff`, `Text.cutLast?_eq_some_iff`).
-/

namespace NameCarry.Text

/-! ## Trimming -/

/-- A row of blanks, which may be empty. -/
def Blanks (cs : List Char) : Prop :=
  ∀ c ∈ cs, isBlank c = true

/-- A text with no blank at its ends. -/
structure Trimmed (cs : List Char) : Prop where
  head : ∀ c, cs.head? = some c → isBlank c = false
  last : ∀ c, cs.getLast? = some c → isBlank c = false

theorem blanks_nil : Blanks [] := by
  intro c hc
  cases hc

theorem Blanks.append {a b : List Char} (ha : Blanks a) (hb : Blanks b) : Blanks (a ++ b) :=
  List.forall_mem_append.2 ⟨ha, hb⟩

theorem Blanks.reverse {cs : List Char} (h : Blanks cs) : Blanks cs.reverse := by
  intro c hc
  exact h c (List.mem_reverse.1 hc)

theorem Trimmed.append {a b : List Char} (ha : Trimmed a) (hna : a ≠ []) (hb : Trimmed b)
    (hnb : b ≠ []) (mid : List Char) : Trimmed (a ++ mid ++ b) where
  head := by
    rw [List.append_assoc, List.head?_append_of_ne_nil _ hna]
    exact ha.head
  last := by
    rw [List.getLast?_append_of_ne_nil _ hnb]
    exact hb.last

/-- No blanks stand before the rest of a trimmed text. -/
theorem Trimmed.eq_nil_of_blanks {a rest : List Char} (h : Trimmed (a ++ rest)) (ha : Blanks a) :
    a = [] := by
  cases a with
  | nil => rfl
  | cons c a =>
    have hc := h.head c rfl
    rw [ha c (List.mem_cons_self ..)] at hc
    cases hc

theorem dropWhile_eq_self {p : Char → Bool} {cs : List Char}
    (h : ∀ c, cs.head? = some c → p c = false) : cs.dropWhile p = cs := by
  cases cs with
  | nil => rfl
  | cons c cs => rw [List.dropWhile_cons_of_neg (by rw [h c rfl]; exact Bool.false_ne_true)]

theorem dropWhile_blanks_append {a t : List Char} (ha : Blanks a)
    (ht : ∀ c, t.head? = some c → isBlank c = false) : (a ++ t).dropWhile isBlank = t := by
  rw [List.dropWhile_append_of_pos ha, dropWhile_eq_self ht]

theorem dropEndWhile_append_blanks {t b : List Char}
    (ht : ∀ c, t.getLast? = some c → isBlank c = false) (hb : Blanks b) :
    dropEndWhile isBlank (t ++ b) = t := by
  have hhead : ∀ c, t.reverse.head? = some c → isBlank c = false := by
    rw [List.head?_reverse]
    exact ht
  rw [dropEndWhile, List.reverse_append, dropWhile_blanks_append hb.reverse hhead,
    List.reverse_reverse]

/-- What stands before the blanks at the end of a text, and these blanks, can be told from it. -/
theorem append_blanks_inj {t t' b b' : List Char}
    (ht : ∀ c, t.getLast? = some c → isBlank c = false)
    (ht' : ∀ c, t'.getLast? = some c → isBlank c = false) (hb : Blanks b) (hb' : Blanks b')
    (h : t ++ b = t' ++ b') : t = t' ∧ b = b' := by
  have hsame := congrArg (dropEndWhile isBlank) h
  rw [dropEndWhile_append_blanks ht hb, dropEndWhile_append_blanks ht' hb'] at hsame
  rw [hsame] at h
  exact ⟨hsame, List.append_cancel_left h⟩

theorem trim_append {a t b : List Char} (ha : Blanks a) (ht : Trimmed t) (hb : Blanks b) :
    trim (a ++ t ++ b) = t := by
  have hend : dropEndWhile isBlank (t ++ b) = t := dropEndWhile_append_blanks ht.last hb
  cases t with
  | nil =>
    have hblanks : (a ++ b).dropWhile isBlank = [] :=
      List.dropWhile_eq_nil_iff.2 (ha.append hb)
    rw [List.append_nil, trim, hblanks]
    rfl
  | cons c cs =>
    have hfront : (a ++ (c :: cs ++ b)).dropWhile isBlank = c :: cs ++ b :=
      dropWhile_blanks_append ha ht.head
    rw [trim, List.append_assoc, hfront, hend]

theorem head?_dropWhile {p : Char → Bool} {cs : List Char} :
    ∀ c, (cs.dropWhile p).head? = some c → p c = false := by
  intro c hc
  have hhead := List.head?_dropWhile_not p cs
  rw [hc] at hhead
  exact hhead

/-- A text is what it is trimmed to, with blanks around it. -/
theorem exists_append_trim (cs : List Char) :
    Trimmed (trim cs) ∧ ∃ a b, Blanks a ∧ Blanks b ∧ cs = a ++ trim cs ++ b := by
  obtain ⟨rest, hrest⟩ : ∃ rest, cs.dropWhile isBlank = rest := ⟨_, rfl⟩
  have hfront : cs = cs.takeWhile isBlank ++ rest := by
    rw [← hrest, List.takeWhile_append_dropWhile]
  have hback : rest = trim cs ++ (rest.reverse.takeWhile isBlank).reverse := by
    rw [trim, hrest, dropEndWhile, ← List.reverse_append, List.takeWhile_append_dropWhile,
      List.reverse_reverse]
  have hblanks : ∀ row : List Char, Blanks (row.takeWhile isBlank) :=
    fun row c hc => List.mem_takeWhile_imp hc
  refine ⟨⟨?_, ?_⟩, _, _, hblanks cs, (hblanks rest.reverse).reverse, ?_⟩
  · -- What stands first behind the blanks in front stands first in the end.
    intro c hc
    have hrow : (cs.dropWhile isBlank).head? = some c := by
      rw [hrest, hback, List.head?_append, hc]
      rfl
    exact head?_dropWhile c hrow
  · intro c hc
    rw [trim, dropEndWhile, List.getLast?_reverse] at hc
    exact head?_dropWhile c hc
  · rw [List.append_assoc, ← hback, ← hfront]

theorem trim_eq_iff {cs t : List Char} :
    trim cs = t ↔ Trimmed t ∧ ∃ a b, Blanks a ∧ Blanks b ∧ cs = a ++ t ++ b := by
  constructor
  · rintro rfl
    exact exists_append_trim cs
  · rintro ⟨ht, a, b, ha, hb, rfl⟩
    exact trim_append ha ht hb

theorem trim_eq_nil_iff {cs : List Char} : trim cs = [] ↔ Blanks cs := by
  constructor
  · intro h
    obtain ⟨-, a, b, ha, hb, hcs⟩ := trim_eq_iff.1 h
    rw [hcs, List.append_nil]
    exact ha.append hb
  · intro h
    rw [trim, List.dropWhile_eq_nil_iff.2 h]
    rfl

theorem trim_blanks_append {a : List Char} (ha : Blanks a) (cs : List Char) :
    trim (a ++ cs) = trim cs := by
  obtain ⟨htrim, front, back, hfront, hback, hcs⟩ := exists_append_trim cs
  refine trim_eq_iff.2 ⟨htrim, a ++ front, back, ha.append hfront, hback, ?_⟩
  rw [List.append_assoc a, List.append_assoc a, ← hcs]

theorem trim_append_blanks (cs : List Char) {b : List Char} (hb : Blanks b) :
    trim (cs ++ b) = trim cs := by
  obtain ⟨htrim, front, back, hfront, hback, hcs⟩ := exists_append_trim cs
  refine trim_eq_iff.2 ⟨htrim, front, back ++ b, hfront, hback.append hb, ?_⟩
  rw [← List.append_assoc, ← hcs]

/-! ## Words -/

theorem isWord_iff {word : String} :
    IsWord word ↔ word.toList ≠ [] ∧ word.toList.any isBlank = false := by
  simp only [List.any_eq_false, Bool.not_eq_true]
  constructor
  · intro h
    exact ⟨h.toList_ne_nil, h.notBlank⟩
  · rintro ⟨hne, hblank⟩
    exact ⟨mt String.toList_eq_nil_iff.2 hne, hblank⟩

theorem IsWord.trimmed {word : String} (h : IsWord word) : Trimmed word.toList where
  head c hc := h.notBlank c (List.mem_of_head? hc)
  last c hc := h.notBlank c (List.mem_of_getLast? hc)

theorem IsWord.trim_eq {word : String} (h : IsWord word) : trim word.toList = word.toList :=
  trim_eq_iff.2 ⟨h.trimmed, [], [], blanks_nil, blanks_nil, (List.append_nil _).symm⟩

theorem words_blanks_append {a : List Char} (ha : Blanks a) (cs : List Char) :
    words (a ++ cs) = words cs := by
  induction a with
  | nil => rfl
  | cons c a ih =>
    obtain ⟨hc, ha⟩ := List.forall_mem_cons.1 ha
    rw [List.cons_append, ← List.nil_append (c :: (a ++ cs)), words_append_blank [] hc, ih ha]
    rfl

/-- A word that ends at a blank, or at the end of the text, is the first word of the text. -/
theorem words_isWord_append {word : String} (hword : IsWord word) {rest : List Char}
    (hrest : ∀ c, rest.head? = some c → isBlank c = true) :
    words (word.toList ++ rest) = word.toList :: words rest := by
  cases rest with
  | nil =>
    rw [List.append_nil, words_of_isWord hword]
    rfl
  | cons blank rest =>
    have hblank := hrest blank rfl
    have hskip : words (blank :: rest) = words rest := words_append_blank [] hblank rest
    rw [words_append_blank _ hblank, words_of_isWord hword, hskip]
    rfl

theorem exists_blanks_append (cs : List Char) :
    ∃ a row, Blanks a ∧ cs = a ++ row ∧ ∀ c, row.head? = some c → isBlank c = false :=
  ⟨_, _, fun _ hc => List.mem_takeWhile_imp hc, List.takeWhile_append_dropWhile.symm,
    head?_dropWhile⟩

/-- A text that does not start with a blank starts with a word. -/
theorem exists_isWord_append {row : List Char} (hne : row ≠ [])
    (hrow : ∀ c, row.head? = some c → isBlank c = false) :
    ∃ word : String, IsWord word ∧ ∃ rest, row = word.toList ++ rest ∧
      ∀ c, rest.head? = some c → isBlank c = true := by
  have hparts : row.takeWhile (!isBlank ·) ++ row.dropWhile (!isBlank ·) = row :=
    List.takeWhile_append_dropWhile
  refine ⟨String.ofList (row.takeWhile (!isBlank ·)), ⟨?_, ?_⟩, row.dropWhile (!isBlank ·), ?_, ?_⟩
  · intro hempty
    obtain ⟨c, cs, rfl⟩ := List.exists_cons_of_ne_nil hne
    have hc : isBlank c = false := hrow c rfl
    rw [List.takeWhile_cons_of_pos (by simp [hc])] at hempty
    simp at hempty
  · intro c hc
    rw [String.toList_ofList] at hc
    simpa using List.mem_takeWhile_imp hc
  · rw [String.toList_ofList, hparts]
  · intro c hc
    simpa using head?_dropWhile c hc

theorem words_eq_nil_iff {cs : List Char} : words cs = [] ↔ Blanks cs := by
  constructor
  · intro h
    obtain ⟨a, row, ha, rfl, hrow⟩ := exists_blanks_append cs
    by_cases hne : row = []
    · rw [hne, List.append_nil]
      exact ha
    · obtain ⟨word, hword, rest, rfl, hrest⟩ := exists_isWord_append hne hrow
      rw [words_blanks_append ha, words_isWord_append hword hrest] at h
      cases h
  · intro h
    rw [← List.append_nil cs, words_blanks_append h]
    rfl

theorem words_eq_cons_iff {cs : List Char} {word : String} {ws : List (List Char)} :
    words cs = word.toList :: ws ↔ IsWord word ∧ ∃ a rest, Blanks a ∧
      cs = a ++ word.toList ++ rest ∧ (∀ c, rest.head? = some c → isBlank c = true) ∧
      words rest = ws := by
  constructor
  · intro h
    obtain ⟨a, row, ha, rfl, hrow⟩ := exists_blanks_append cs
    rw [words_blanks_append ha] at h
    have hne : row ≠ [] := by
      rintro rfl
      cases h
    obtain ⟨first, hfirst, rest, rfl, hrest⟩ := exists_isWord_append hne hrow
    rw [words_isWord_append hfirst hrest, List.cons.injEq, String.toList_inj] at h
    obtain ⟨rfl, hws⟩ := h
    exact ⟨hfirst, a, rest, ha, by rw [List.append_assoc], hrest, hws⟩
  · rintro ⟨hword, a, rest, ha, rfl, hrest, rfl⟩
    rw [List.append_assoc, words_blanks_append ha, words_isWord_append hword hrest]

/-- A text has two words if it is these two, with blanks between them and perhaps around them. -/
theorem words_eq_pair_iff {cs : List Char} {first second : String} :
    words cs = [first.toList, second.toList] ↔ IsWord first ∧ IsWord second ∧
      ∃ a between b, Blanks a ∧ Blanks between ∧ between ≠ [] ∧ Blanks b ∧
        cs = a ++ first.toList ++ between ++ second.toList ++ b := by
  constructor
  · intro h
    obtain ⟨hfirst, a, rest, ha, rfl, hrest, hws⟩ := words_eq_cons_iff.1 h
    obtain ⟨hsecond, between, b, hbetween, rfl, -, hb⟩ := words_eq_cons_iff.1 hws
    refine ⟨hfirst, hsecond, a, between, b, ha, hbetween, ?_, words_eq_nil_iff.1 hb, ?_⟩
    · -- With nothing between them, the two words would be one.
      rintro rfl
      obtain ⟨c, cs, hcs, hc⟩ := hsecond.head
      have hblank := hrest c (by rw [hcs]; rfl)
      rw [hc] at hblank
      cases hblank
    · simp only [List.append_assoc]
  · rintro ⟨hfirst, hsecond, a, between, b, ha, hbetween, hne, hb, rfl⟩
    have hhead : ∀ {row rest : List Char}, Blanks row → row ≠ [] →
        ∀ c, (row ++ rest).head? = some c → isBlank c = true := by
      intro row rest hrow hne c hc
      obtain ⟨d, ds, rfl⟩ := List.exists_cons_of_ne_nil hne
      cases hc
      exact hrow c (List.mem_cons_self ..)
    have hrest : words (between ++ (second.toList ++ b)) = [second.toList] := by
      rw [words_blanks_append hbetween,
        words_isWord_append hsecond fun c hc => hb c (List.mem_of_head? hc), words_eq_nil_iff.2 hb]
    simp only [List.append_assoc]
    rw [words_blanks_append ha, words_isWord_append hfirst (hhead hbetween hne), hrest]

/-! ## Cuts -/

theorem cutBehind?_eq_map (sep seen cs : List Char) :
    cutBehind? sep seen cs =
      (cutFirst? sep cs).map fun cut => (seen.reverse ++ cut.1, cut.2) := by
  unfold cutFirst?
  suffices ∀ more, cutBehind? sep (more ++ seen) cs =
      (cutBehind? sep more cs).map fun cut => (seen.reverse ++ cut.1, cut.2) from this []
  induction cs with
  | nil =>
    intro more
    simp only [cutBehind?]
    split <;> simp
  | cons c cs ih =>
    intro more
    simp only [cutBehind?]
    split
    · simp
    · exact ih (c :: more)

theorem cutFirst?_cons_of_not_ahead {sep cs : List Char} {c : Char} (h : ¬ sep <+: c :: cs) :
    cutFirst? sep (c :: cs) = (cutFirst? sep cs).map fun cut => (c :: cut.1, cut.2) := by
  have hprefix : sep.isPrefixOf (c :: cs) = false := by
    rw [← Bool.not_eq_true, List.isPrefixOf_iff_prefix]
    exact h
  rw [cutFirst?, cutBehind?, hprefix, if_neg Bool.false_ne_true, cutBehind?_eq_map]
  rfl

theorem cutFirst?_append {sep : List Char} (hsep : sep ≠ []) (behind : List Char) :
    cutFirst? sep (sep ++ behind) = some ([], behind) := by
  obtain ⟨c, cs, rfl⟩ := List.exists_cons_of_ne_nil hsep
  have hprefix : (c :: cs).isPrefixOf (c :: cs ++ behind) = true :=
    List.isPrefixOf_iff_prefix.2 (List.prefix_append ..)
  rw [cutFirst?, List.cons_append, cutBehind?, ← List.cons_append, if_pos hprefix,
    List.drop_left]
  rfl

/-- A text is cut where the separator stands, if it does not stand further ahead. -/
theorem cutFirst?_eq_some_iff {sep cs before behind : List Char} (hsep : sep ≠ []) :
    cutFirst? sep cs = some (before, behind) ↔
      cs = before ++ sep ++ behind ∧ ¬ sep <:+: before ++ sep.dropLast := by
  have hlength : sep.dropLast.length + 1 = sep.length := by
    have hpos := List.length_pos_iff.2 hsep
    rw [List.length_dropLast]
    omega
  -- No place further ahead reaches beyond the last character of the separator but one.
  have hahead : ∀ front : List Char, front ++ sep.dropLast <+: front ++ sep ++ behind := by
    intro front
    exact ((List.prefix_append_right_inj front).2 (List.dropLast_prefix sep)).trans
      (List.prefix_append _ _)
  induction cs generalizing before with
  | nil =>
    have hnone : cutFirst? sep [] = none := by simp [cutFirst?, cutBehind?, hsep]
    simp [hnone, hsep]
  | cons c cs ih =>
    by_cases hprefix : sep <+: c :: cs
    · obtain ⟨rest, hrest⟩ := hprefix
      rw [← hrest, cutFirst?_append hsep]
      constructor
      · intro h
        cases h
        refine ⟨by rw [List.nil_append], fun hinfix => ?_⟩
        have hle := hinfix.length_le
        rw [List.nil_append] at hle
        omega
      · rintro ⟨hcs, hno⟩
        cases before with
        | nil =>
          rw [List.nil_append] at hcs
          rw [List.append_cancel_left hcs]
        | cons d front =>
          have hsepPrefix : sep <+: d :: front ++ sep ++ behind := ⟨rest, hcs⟩
          have hle : sep.length ≤ (d :: front ++ sep.dropLast).length := by
            simp only [List.length_append, List.length_cons]
            omega
          exact absurd (List.prefix_of_prefix_length_le hsepPrefix (hahead _) hle).isInfix hno
    · rw [cutFirst?_cons_of_not_ahead hprefix]
      constructor
      · intro h
        obtain ⟨⟨front, rest⟩, hcut, heq⟩ := Option.map_eq_some_iff.1 h
        cases heq
        obtain ⟨rfl, hno⟩ := ih.1 hcut
        refine ⟨rfl, fun hinfix => ?_⟩
        rcases List.infix_cons_iff.1 hinfix with hfirst | hlater
        · exact hprefix (hfirst.trans (hahead (c :: front)))
        · exact hno hlater
      · rintro ⟨hcs, hno⟩
        cases before with
        | nil => exact absurd ⟨behind, hcs.symm⟩ hprefix
        | cons d front =>
          obtain ⟨rfl, rfl⟩ := List.cons.inj hcs
          have hcut := ih.2 ⟨rfl, fun hinfix => hno (List.infix_cons hinfix)⟩
          rw [hcut]
          rfl

/-- A text is cut where the separator stands, if it does not stand further behind. -/
theorem cutLast?_eq_some_iff {sep cs before behind : List Char} (hsep : sep ≠ []) :
    cutLast? sep cs = some (before, behind) ↔
      cs = before ++ sep ++ behind ∧ ¬ sep <:+: sep.tail ++ behind := by
  have hmirror : cutLast? sep cs = some (before, behind) ↔
      cutFirst? sep.reverse cs.reverse = some (behind.reverse, before.reverse) := by
    rw [cutLast?, Option.map_eq_some_iff]
    constructor
    · rintro ⟨⟨b, a⟩, hcut, heq⟩
      cases heq
      rw [hcut, List.reverse_reverse, List.reverse_reverse]
    · intro hcut
      refine ⟨_, hcut, ?_⟩
      simp only [List.reverse_reverse]
  rw [hmirror, cutFirst?_eq_some_iff (mt List.reverse_eq_nil_iff.1 hsep), List.dropLast_reverse,
    ← List.reverse_append, ← List.reverse_append, ← List.reverse_append, List.reverse_inj,
    List.reverse_infix, List.append_assoc]

theorem cutFirst?_char_eq_some_iff {c : Char} {cs before behind : List Char} :
    cutFirst? [c] cs = some (before, behind) ↔ cs = before ++ c :: behind ∧ c ∉ before := by
  rw [cutFirst?_eq_some_iff (List.cons_ne_nil _ _), List.append_assoc, List.singleton_append,
    List.dropLast_singleton, List.append_nil, List.singleton_infix_iff]

theorem cutLast?_char_eq_some_iff {c : Char} {cs before behind : List Char} :
    cutLast? [c] cs = some (before, behind) ↔ cs = before ++ c :: behind ∧ c ∉ behind := by
  rw [cutLast?_eq_some_iff (List.cons_ne_nil _ _), List.append_assoc, List.singleton_append,
    List.tail_cons, List.nil_append, List.singleton_infix_iff]

/-! ## Lists -/

/-- No piece has a separator in it. -/
theorem not_of_mem_splitOnP {p : Char → Bool} {cs piece : List Char} (h : piece ∈ cs.splitOnP p) :
    ∀ c ∈ piece, p c = false := by
  induction cs generalizing piece with
  | nil =>
    rw [List.splitOnP_nil, List.mem_singleton] at h
    rw [h]
    exact List.forall_mem_nil _
  | cons d cs ih =>
    rw [List.splitOnP_cons_eq_if_modifyHead] at h
    split at h
    · rcases List.mem_cons.1 h with rfl | hmem
      · exact List.forall_mem_nil _
      · exact ih hmem
    · next hd =>
      obtain ⟨first, rest, hsplit⟩ := List.exists_cons_of_ne_nil (List.splitOnP_ne_nil p cs)
      rw [hsplit] at h ih
      rcases List.mem_cons.1 h with rfl | hmem
      · exact List.forall_mem_cons.2 ⟨Bool.eq_false_iff.2 hd, ih (List.mem_cons_self ..)⟩
      · exact ih (List.mem_cons_of_mem _ hmem)

theorem not_mem_of_mem_splitOn {c : Char} {cs piece : List Char} (h : piece ∈ cs.splitOn c) :
    c ∉ piece := by
  intro hmem
  have hne := not_of_mem_splitOnP h c hmem
  rw [beq_self_eq_true] at hne
  cases hne

theorem isWord_of_mem_tokens {line word : String} (h : word ∈ tokens line) : IsWord word := by
  obtain ⟨chars, hchars, rfl⟩ := List.mem_map.1 h
  obtain ⟨hpiece, hne⟩ := List.mem_filter.1 hchars
  constructor
  · intro hempty
    rw [String.ofList_eq_empty_iff] at hempty
    rw [hempty] at hne
    cases hne
  · rw [String.toList_ofList]
    exact not_of_mem_splitOnP hpiece

theorem isWord_of_tokens_eq {line word : String} {ws : List String} (h : tokens line = ws)
    (hword : word ∈ ws) : IsWord word := by
  rw [← h] at hword
  exact isWord_of_mem_tokens hword

section Splitting

variable {c : Char} (hc : isBlank c = false)

include hc

theorem not_mem_blanks {a : List Char} (ha : Blanks a) : c ∉ a := by
  intro hmem
  have hblank := ha c hmem
  rw [hc] at hblank
  cases hblank

theorem map_trim_splitOn_blanks_append {a : List Char} (ha : Blanks a) (cs : List Char) :
    ((a ++ cs).splitOn c).map trim = (cs.splitOn c).map trim := by
  by_cases hmem : c ∈ cs
  · obtain ⟨front, rest, rfl, hfront⟩ := List.eq_append_cons_of_mem hmem
    have hfirst : c ∉ a ++ front :=
      fun h => (List.mem_append.1 h).elim (not_mem_blanks hc ha) hfront
    rw [← List.append_assoc, List.splitOn_append_cons_self_of_not_mem hfirst,
      List.splitOn_append_cons_self_of_not_mem hfront, List.map_cons, List.map_cons,
      trim_blanks_append ha]
  · have hrow : c ∉ a ++ cs := fun h => (List.mem_append.1 h).elim (not_mem_blanks hc ha) hmem
    rw [List.splitOn_eq_singleton hrow, List.splitOn_eq_singleton hmem, List.map_singleton,
      List.map_singleton, trim_blanks_append ha]

theorem map_trim_splitOn_append_blanks (cs : List Char) {b : List Char} (hb : Blanks b) :
    ((cs ++ b).splitOn c).map trim = (cs.splitOn c).map trim := by
  by_cases hmem : c ∈ cs
  · -- Only the piece behind the last separator has the blanks at its end.
    obtain ⟨back, front, hcs, hback⟩ := List.eq_append_cons_of_mem (List.mem_reverse.2 hmem)
    have hsplit : cs = front.reverse ++ c :: back.reverse := by
      rw [← List.reverse_reverse cs, hcs]
      simp
    have hlast : c ∉ back.reverse := mt List.mem_reverse.1 hback
    have hrow : c ∉ back.reverse ++ b :=
      fun h => (List.mem_append.1 h).elim hlast (not_mem_blanks hc hb)
    rw [hsplit, List.append_assoc, List.cons_append, List.splitOn_append_cons_self,
      List.splitOn_append_cons_self, List.splitOn_eq_singleton hrow,
      List.splitOn_eq_singleton hlast, List.map_append, List.map_append, List.map_singleton,
      List.map_singleton, trim_append_blanks _ hb]
  · have hrow : c ∉ cs ++ b := fun h => (List.mem_append.1 h).elim hmem (not_mem_blanks hc hb)
    rw [List.splitOn_eq_singleton hrow, List.splitOn_eq_singleton hmem, List.map_singleton,
      List.map_singleton, trim_append_blanks _ hb]

/-- The pieces of a text, trimmed, do not depend on the blanks around the text. -/
theorem map_trim_splitOn_trim (cs : List Char) :
    ((trim cs).splitOn c).map trim = (cs.splitOn c).map trim := by
  obtain ⟨-, a, b, ha, hb, hcs⟩ := exists_append_trim cs
  have hsame := map_trim_splitOn_append_blanks hc (a ++ trim cs) hb
  rw [← hcs, map_trim_splitOn_blanks_append hc ha] at hsame
  exact hsame.symm

end Splitting

end NameCarry.Text
