import Mathlib.Data.List.Forall2
import NameCarry.Declaration
import NameCarry.Proofs.Cuts
import NameCarry.Proofs.Links

/-!
# How declarations are spelled

A declaration can be spelled in many ways: blanks may stand around its parts, and a method may come
with line numbers (`Declaration.Spells`). A line is read as a declaration if and only if it is one
of its spellings and the declaration is well-formed (`Declaration.read_eq_ok_iff`). So every
spelling is read, whatever its parts look like, and no line gives a name that is empty or has blanks
in it.
-/

namespace NameCarry.Declaration

open Text

/-! ## Well-formed declarations -/

def StartsWithDigit (word : String) : Prop :=
  word.toList.head?.any Char.isDigit = true

/-- A word in a declaration, other than the obfuscated name of a method. -/
structure IsPlain (word : String) : Prop where
  isWord : IsWord word
  opening : '(' ∉ word.toList

/-- A parameter type. It may have blanks and parentheses in it. -/
structure IsParam (param : String) : Prop where
  ne_empty : param ≠ ""
  trimmed : Trimmed param.toList
  comma : ',' ∉ param.toList

/-- What a line can declare. -/
def WellFormed : Declaration → Prop
  | header human obfuscated => IsWord human ∧ IsWord obfuscated
  | field type human obfuscated =>
    IsPlain type ∧ IsPlain human ∧ IsPlain obfuscated ∧ ¬ StartsWithDigit type
  | method result human params obfuscated =>
    IsPlain result ∧ IsPlain human ∧ (∀ param ∈ params, IsParam param) ∧ IsWord obfuscated

/-! ## Spellings -/

def IsNumber (cs : List Char) : Prop :=
  cs ≠ [] ∧ ∀ c ∈ cs, c.isDigit = true

/-- A range of line numbers, as it stands before a method. -/
def IsRange (cs : List Char) : Prop :=
  ∃ first last, IsNumber first ∧ IsNumber last ∧ cs = first ++ ':' :: last ++ [':']

/-- A row of line numbers, as it stands behind the parameters of a method. It may be empty. -/
def IsSuffix (cs : List Char) : Prop :=
  ∃ numbers : List (List Char),
    (∀ number ∈ numbers, IsNumber number) ∧ cs = numbers.flatMap (':' :: ·)

/-- A list of parameters, with commas between them. -/
def SpellsParams (params : List String) (cs : List Char) : Prop :=
  params = [] ∧ Blanks cs ∨ params ≠ [] ∧ ∃ pieces,
    List.Forall₂ (fun param piece => ∃ a b, Blanks a ∧ Blanks b ∧ piece = a ++ param.toList ++ b)
      params pieces ∧ cs = [','].intercalate pieces

/-- An obfuscated name that looks like an arrow itself, with a blank on each side of it. -/
def LooksLikeArrow (obfuscated : String) (before behind : List Char) : Prop :=
  obfuscated = "->" ∧ before.getLast? = some ' ' ∧ behind.head? = some ' '

/-- The lines on which a declaration stands. -/
inductive Spells : Declaration → List Char → Prop where
  | header {human obfuscated : String} {w w' gap tail : List Char} (hw : Blanks w)
    (hw' : Blanks w') (hgap : Blanks gap) (htail : Blanks tail)
    (harrow : ¬ LooksLikeArrow obfuscated (' ' :: w') gap) :
    Spells (.header human obfuscated)
      (human.toList ++ w ++ arrow ++ w' ++ obfuscated.toList ++ gap ++ ':' :: tail)
  | field {type human obfuscated : String} {indent between w w' tail : List Char}
    (hindent : Blanks indent) (hne : indent ≠ []) (hbetween : Blanks between)
    (hne' : between ≠ []) (hw : Blanks w) (hw' : Blanks w') (htail : Blanks tail) :
    Spells (.field type human obfuscated)
      (indent ++ type.toList ++ between ++ human.toList ++ w ++ arrow ++ w' ++ obfuscated.toList ++
        tail)
  | method {result human obfuscated : String} {params : List String}
    {indent range skip between gap body suffix w w' tail : List Char}
    (hindent : Blanks indent) (hne : indent ≠ [])
    (hrange : IsRange range ∨ range = [] ∧ ¬ StartsWithDigit result) (hskip : Blanks skip)
    (hbetween : Blanks between) (hne' : between ≠ []) (hgap : Blanks gap)
    (hparams : SpellsParams params body) (hsuffix : IsSuffix suffix) (hw : Blanks w)
    (hw' : Blanks w') (htail : Blanks tail) :
    Spells (.method result human params obfuscated)
      (indent ++ range ++ skip ++ result.toList ++ between ++ human.toList ++ gap ++ '(' :: body ++
        ')' :: suffix ++ w ++ arrow ++ w' ++ obfuscated.toList ++ tail)

/-! ## The two sides of the arrow -/

theorem isWord_arrowhead : IsWord "->" where
  ne_empty := by decide
  notBlank := by
    have hleft : isBlank '-' = false := by decide
    have hright : isBlank '>' = false := by decide
    exact List.forall_mem_cons.2 ⟨hleft, List.forall_mem_singleton.2 hright⟩

theorem words_append_arrow (front back : List Char) :
    words (front ++ arrow ++ back) = words front ++ "->".toList :: words back := by
  have hspace : isBlank ' ' = true := by decide
  have hshape : front ++ arrow ++ back = front ++ ' ' :: ("->".toList ++ ' ' :: back) := by
    simp [arrow]
  rw [hshape, words_append_blank _ hspace, words_append_cons isWord_arrowhead hspace]

theorem words_tail_arrow_append {obfuscated : String} (h : IsWord obfuscated) {w gap : List Char}
    (hw : Blanks w) (hgap : Blanks gap) :
    words (arrow.tail ++ (w ++ obfuscated.toList ++ gap)) =
      ["->".toList, obfuscated.toList] := by
  have hspace : isBlank ' ' = true := by decide
  have hshape : arrow.tail ++ (w ++ obfuscated.toList ++ gap) =
      [] ++ "->".toList ++ (' ' :: w) ++ obfuscated.toList ++ gap := by
    simp [arrow]
  rw [hshape]
  exact words_eq_pair_iff.2 ⟨isWord_arrowhead, h, _, _, _, blanks_nil,
    List.forall_mem_cons.2 ⟨hspace, hw⟩, List.cons_ne_nil _ _, hgap, rfl⟩

theorem notBlank_getLast?_append_arrowhead (row : List Char) :
    ∀ c, (row ++ ['-', '>']).getLast? = some c → isBlank c = false := by
  intro c hc
  rw [List.getLast?_append_of_ne_nil _ (List.cons_ne_nil _ _)] at hc
  cases hc
  decide

/-- Behind the arrow there is another one if the name there looks like an arrow. -/
theorem arrow_infix_iff {obfuscated : String} (h : IsWord obfuscated) {w gap : List Char}
    (hw : Blanks w) (hgap : Blanks gap) :
    arrow <:+: arrow.tail ++ (w ++ obfuscated.toList ++ gap) ↔
      LooksLikeArrow obfuscated (' ' :: w) gap := by
  constructor
  · rintro ⟨front, back, heq⟩
    -- Both texts have the same words, so the second arrowhead is the name.
    have hwords := congrArg words heq
    rw [words_append_arrow, words_tail_arrow_append h hw hgap] at hwords
    cases hfront : words front with
    | nil =>
      -- Then the text would start with a blank.
      have hblanks := words_eq_nil_iff.1 hfront
      cases front with
      | nil => cases heq
      | cons c front =>
        have hc : c = '-' := (List.cons.inj heq).1
        have hblank := hblanks c (List.mem_cons_self ..)
        rw [hc] at hblank
        cases hblank
    | cons first rest =>
      rw [hfront, List.cons_append, List.cons.injEq, List.append_eq_cons_iff] at hwords
      obtain ⟨-, ⟨-, hname⟩ | ⟨rest', -, hrest⟩⟩ := hwords
      · obtain ⟨hname, hback⟩ := List.cons.inj hname
        have hobfuscated : obfuscated = "->" := String.toList_inj.1 hname.symm
        rw [hobfuscated] at heq ⊢
        have hends : (front ++ [' '] ++ ['-', '>']) ++ ' ' :: back =
            (['-', '>'] ++ ' ' :: w ++ ['-', '>']) ++ gap := by
          simpa [arrow] using heq
        have hback : Blanks (' ' :: back) :=
          List.forall_mem_cons.2 ⟨by decide, words_eq_nil_iff.1 hback⟩
        obtain ⟨hsame, hgap⟩ := append_blanks_inj (notBlank_getLast?_append_arrowhead _)
          (notBlank_getLast?_append_arrowhead _) hback hgap hends
        have hbefore := congrArg List.getLast? (List.append_cancel_right hsame)
        rw [List.getLast?_concat, List.getLast?_append_of_ne_nil _ (List.cons_ne_nil _ _)]
          at hbefore
        exact ⟨rfl, hbefore.symm, by rw [← hgap]; rfl⟩
      · simp at hrest
  · rintro ⟨rfl, hlast, hhead⟩
    obtain ⟨rest, rfl⟩ := List.head?_eq_some_iff.1 hhead
    obtain ⟨front, hfront⟩ := List.getLast?_eq_some_iff.1 hlast
    refine ⟨['-', '>'] ++ front, rest, ?_⟩
    have hshape : arrow.tail ++ (w ++ "->".toList ++ ' ' :: rest) =
        ['-', '>'] ++ (' ' :: w) ++ ['-', '>', ' '] ++ rest := by
      simp [arrow]
    rw [hshape, hfront]
    simp [arrow]

/-- A text is taken apart at its last arrow, with one word behind it. -/
theorem cutArrow_eq_ok_iff {cs left : List Char} {right : String} :
    cutArrow cs = .ok (left, right.toList) ↔ left ≠ [] ∧ Trimmed left ∧ IsWord right ∧
      ∃ a w w' gap, Blanks a ∧ Blanks w ∧ Blanks w' ∧ Blanks gap ∧
        cs = a ++ left ++ w ++ arrow ++ (w' ++ right.toList ++ gap) ∧
        ¬ LooksLikeArrow right (' ' :: w') gap := by
  have harrow : arrow ≠ [] := List.cons_ne_nil _ _
  constructor
  · intro h
    unfold cutArrow at h
    split at h
    · cases h
    · next before behind hcut =>
      simp only at h
      split at h
      · cases h
      · next hempty =>
        split at h
        · cases h
        · next hblank =>
          obtain ⟨hleft, hright⟩ := Prod.mk.inj (Except.ok.inj h)
          rw [hleft, hright] at hempty
          rw [hright] at hblank
          simp only [Bool.or_eq_true, List.isEmpty_iff, not_or] at hempty
          obtain ⟨rfl, hlast⟩ := (cutLast?_eq_some_iff harrow).1 hcut
          obtain ⟨htrimmed, a, w, ha, hw, rfl⟩ := trim_eq_iff.1 hleft
          obtain ⟨-, w', gap, hw', hgap, rfl⟩ := trim_eq_iff.1 hright
          have hword : IsWord right := isWord_iff.2 ⟨hempty.2, Bool.eq_false_iff.2 hblank⟩
          rw [arrow_infix_iff hword hw' hgap] at hlast
          exact ⟨hempty.1, htrimmed, hword, a, w, w', gap, ha, hw, hw', hgap, rfl, hlast⟩
  · rintro ⟨hne, htrimmed, hword, a, w, w', gap, ha, hw, hw', hgap, rfl, hlast⟩
    rw [← arrow_infix_iff hword hw' hgap] at hlast
    have hcut : cutLast? arrow (a ++ left ++ w ++ arrow ++ (w' ++ right.toList ++ gap)) =
        some (a ++ left ++ w, w' ++ right.toList ++ gap) :=
      (cutLast?_eq_some_iff harrow).2 ⟨rfl, hlast⟩
    obtain ⟨hne', hright⟩ := isWord_iff.1 hword
    have hfirst : left.isEmpty = false := List.isEmpty_eq_false_iff.2 hne
    have hsecond : right.toList.isEmpty = false := List.isEmpty_eq_false_iff.2 hne'
    simp only [cutArrow, hcut, trim_append ha htrimmed hw, trim_append hw' hword.trimmed hgap,
      hfirst, hsecond, hright, Bool.or_self, Bool.false_eq_true, if_false]

/-! ## Line numbers -/

theorem dropLineNumber?_eq_some_iff {cs rest : List Char} :
    dropLineNumber? cs = some rest ↔ ∃ number, IsNumber number ∧ cs = number ++ ':' :: rest := by
  have hcolon : ¬ (':').isDigit = true := by decide
  constructor
  · intro h
    unfold dropLineNumber? at h
    split at h
    · cases h
    · next hempty =>
      split at h
      · next behind hbehind =>
        cases h
        refine ⟨cs.takeWhile Char.isDigit, ⟨by simpa using hempty, ?_⟩, ?_⟩
        · intro c hc
          exact List.mem_takeWhile_imp hc
        · rw [← hbehind, List.takeWhile_append_dropWhile]
      · cases h
  · rintro ⟨number, ⟨hne, hdigits⟩, rfl⟩
    have htake : (number ++ ':' :: rest).takeWhile Char.isDigit = number := by
      rw [List.takeWhile_append_of_pos hdigits, List.takeWhile_cons_of_neg hcolon, List.append_nil]
    have hdrop : (number ++ ':' :: rest).dropWhile Char.isDigit = ':' :: rest := by
      rw [List.dropWhile_append_of_pos hdigits, List.dropWhile_cons_of_neg hcolon]
    simp [dropLineNumber?, htake, hdrop, hne]

theorem dropLineRange?_eq_some_iff {cs rest : List Char} :
    dropLineRange? cs = some rest ↔ ∃ range, IsRange range ∧ cs = range ++ rest := by
  rw [dropLineRange?, Option.bind_eq_some_iff]
  simp only [dropLineNumber?_eq_some_iff]
  constructor
  · rintro ⟨behind, ⟨first, hfirst, rfl⟩, last, hlast, rfl⟩
    exact ⟨_, ⟨first, last, hfirst, hlast, rfl⟩, by simp⟩
  · rintro ⟨range, ⟨first, last, hfirst, hlast, rfl⟩, rfl⟩
    exact ⟨last ++ ':' :: rest, ⟨first, hfirst, by simp⟩, last, hlast, rfl⟩

theorem notBlank_of_isDigit {c : Char} (h : c.isDigit = true) : isBlank c = false := by
  have hbounds : 48 ≤ c.toNat ∧ c.toNat ≤ 57 := by
    simpa [Char.isDigit, UInt32.le_iff_toNat_le] using h
  simp only [isBlank, Bool.or_eq_false_iff, Bool.and_eq_false_iff, decide_eq_false_iff_not,
    beq_eq_false_iff_ne]
  omega

theorem eq_colon_or_isDigit_of_mem_suffix {cs : List Char} (h : IsSuffix cs) :
    ∀ c ∈ cs, c = ':' ∨ c.isDigit = true := by
  obtain ⟨numbers, hnumbers, rfl⟩ := h
  intro c hmem
  obtain ⟨number, hnumber, hc⟩ := List.mem_flatMap.1 hmem
  rcases List.mem_cons.1 hc with hcolon | hdigit
  · exact .inl hcolon
  · exact .inr ((hnumbers number hnumber).2 c hdigit)

/-- What stands behind the parameters is one word with the parenthesis before it. -/
theorem isWord_closing {suffix : List Char} (h : IsSuffix suffix) :
    IsWord (String.ofList (')' :: suffix)) where
  ne_empty := by simp
  notBlank := by
    rw [String.toList_ofList]
    refine List.forall_mem_cons.2 ⟨by decide, fun c hc => ?_⟩
    rcases eq_colon_or_isDigit_of_mem_suffix h c hc with rfl | hdigit
    · decide
    · exact notBlank_of_isDigit hdigit

theorem closing_not_mem_suffix {suffix : List Char} (h : IsSuffix suffix) : ')' ∉ suffix := by
  intro hmem
  rcases eq_colon_or_isDigit_of_mem_suffix h _ hmem with hcolon | hdigit
  · exact absurd hcolon (by decide)
  · exact absurd hdigit (by decide)

theorem isLineSuffix_iff {cs : List Char} : isLineSuffix cs = true ↔ IsSuffix cs := by
  have hjoin : ∀ numbers : List (List Char), numbers ≠ [] →
      numbers.flatMap (':' :: ·) = ':' :: [':'].intercalate numbers := by
    intro numbers hne
    induction numbers with
    | nil => exact absurd rfl hne
    | cons number numbers ih =>
      cases numbers with
      | nil => simp
      | cons next numbers =>
        rw [List.flatMap_cons, ih (List.cons_ne_nil _ _), List.intercalate_cons_cons]
        simp
  constructor
  · intro h
    unfold isLineSuffix at h
    split at h
    · exact ⟨[], by simp, rfl⟩
    · next rest =>
      change (rest.splitOn ':').all _ = true at h
      refine ⟨rest.splitOn ':', ?_, ?_⟩
      · intro number hnumber
        have hgood := List.all_eq_true.1 h number hnumber
        simpa [IsNumber] using hgood
      · rw [hjoin _ (List.splitOn_ne_nil _ _), List.intercalate_splitOn]
    · cases h
  · rintro ⟨numbers, hnumbers, rfl⟩
    by_cases hne : numbers = []
    · rw [hne]
      rfl
    · have hcolon : ∀ number ∈ numbers, ':' ∉ number := by
        intro number hnumber hmem
        have hdigit := (hnumbers number hnumber).2 ':' hmem
        revert hdigit
        decide
      rw [hjoin numbers hne]
      show (([':'].intercalate numbers).splitOn ':').all _ = true
      rw [List.splitOn_intercalate ':' hcolon hne, List.all_eq_true]
      intro number hnumber
      simpa [IsNumber] using hnumbers number hnumber

/-! ## Parameters -/

theorem readParams_of_trim_ne_nil {cs : List Char} (h : trim cs ≠ []) :
    readParams cs =
      if ((cs.splitOn ',').map trim).any List.isEmpty then .error .emptyParameter
      else .ok (((cs.splitOn ',').map trim).map String.ofList) := by
  have hcomma : isBlank ',' = false := by decide
  rw [← map_trim_splitOn_trim hcomma cs]
  simp only [readParams, List.isEmpty_iff, h, if_false]
  rfl

theorem map_trim_of_spells {params : List String} {pieces : List (List Char)}
    (hparams : ∀ param ∈ params, IsParam param)
    (hpieces : List.Forall₂ (fun param piece => ∃ a b, Blanks a ∧ Blanks b ∧
      piece = a ++ param.toList ++ b) params pieces) :
    (∀ piece ∈ pieces, ',' ∉ piece) ∧ pieces.map trim = params.map String.toList := by
  have hblank : isBlank ',' = false := by decide
  induction hpieces with
  | nil => exact ⟨by simp, rfl⟩
  | cons hpiece _ ih =>
    obtain ⟨hparam, hrest⟩ := List.forall_mem_cons.1 hparams
    obtain ⟨hcommas, htrims⟩ := ih hrest
    obtain ⟨a, b, ha, hb, rfl⟩ := hpiece
    have hcomma : ',' ∉ a ++ _ ++ b := fun hmem => by
      rcases List.mem_append.1 hmem with hmem | hmem
      · rcases List.mem_append.1 hmem with hmem | hmem
        · exact not_mem_blanks hblank ha hmem
        · exact hparam.comma hmem
      · exact not_mem_blanks hblank hb hmem
    refine ⟨List.forall_mem_cons.2 ⟨hcomma, hcommas⟩, ?_⟩
    rw [List.map_cons, List.map_cons, trim_append ha hparam.trimmed hb, htrims]

theorem readParams_eq_ok_iff {cs : List Char} {params : List String} :
    readParams cs = .ok params ↔ (∀ param ∈ params, IsParam param) ∧ SpellsParams params cs := by
  constructor
  · intro h
    by_cases hblank : trim cs = []
    · have hnone : readParams cs = .ok [] := by simp [readParams, hblank]
      rw [hnone] at h
      cases h
      exact ⟨by simp, .inl ⟨rfl, trim_eq_nil_iff.1 hblank⟩⟩
    · rw [readParams_of_trim_ne_nil hblank] at h
      split at h
      · cases h
      · next hempty =>
        cases h
        simp only [List.any_map, List.any_eq_true, Function.comp, List.isEmpty_iff, not_exists,
          not_and] at hempty
        refine ⟨?_, .inr ⟨?_, cs.splitOn ',', ?_, (List.intercalate_splitOn ',').symm⟩⟩
        · intro param hparam
          rw [List.map_map] at hparam
          obtain ⟨piece, hpiece, rfl⟩ := List.mem_map.1 hparam
          obtain ⟨htrimmed, a, b, -, -, heq⟩ := exists_append_trim piece
          refine ⟨?_, ?_, ?_⟩
          · intro hnil
            exact hempty piece hpiece (String.ofList_eq_empty_iff.1 hnil)
          · simpa using htrimmed
          · intro hcomma
            rw [Function.comp, String.toList_ofList] at hcomma
            apply not_mem_of_mem_splitOn hpiece
            rw [heq]
            exact List.mem_append_left _ (List.mem_append_right _ hcomma)
        · simp [List.splitOn_ne_nil]
        · rw [List.forall₂_map_left_iff, List.forall₂_map_left_iff, List.forall₂_same]
          intro piece _
          obtain ⟨-, a, b, ha, hb, heq⟩ := exists_append_trim piece
          exact ⟨a, b, ha, hb, by rw [String.toList_ofList, ← heq]⟩
  · rintro ⟨hparams, ⟨rfl, hblanks⟩ | ⟨hne, pieces, hpieces, rfl⟩⟩
    · simp [readParams, trim_eq_nil_iff.2 hblanks]
    · obtain ⟨hcommas, htrims⟩ := map_trim_of_spells hparams hpieces
      have hsplit : ([','].intercalate pieces).splitOn ',' = pieces := by
        refine List.splitOn_intercalate ',' hcommas ?_
        rintro rfl
        cases hpieces
        exact hne rfl
      have hempty : ¬ (params.map String.toList).any List.isEmpty = true := by
        rw [List.any_map, List.any_eq_true]
        rintro ⟨param, hparam, hnil⟩
        exact (hparams param hparam).ne_empty
          (String.toList_eq_nil_iff.1 (List.isEmpty_iff.1 hnil))
      have hcs : trim ([','].intercalate pieces) ≠ [] := by
        intro hnil
        -- The only parameter would be empty.
        have hone := map_trim_splitOn_trim (c := ',') (by decide) ([','].intercalate pieces)
        rw [hnil, hsplit, htrims, List.splitOn_nil] at hone
        rw [← hone] at hempty
        exact hempty rfl
      rw [readParams_of_trim_ne_nil hcs, hsplit, htrims, if_neg hempty, List.map_map]
      simp

/-! ## Reading without the blanks around a line -/

theorem exists_toList_eq (cs : List Char) : ∃ word : String, word.toList = cs :=
  ⟨String.ofList cs, String.toList_ofList⟩

theorem readCallable_eq_ok_iff {cs : List Char} {declare : String → Declaration} :
    readCallable cs = .ok declare ↔ ∃ result human params, declare = method result human params ∧
      IsPlain result ∧ IsPlain human ∧ (∀ param ∈ params, IsParam param) ∧
      ∃ a between gap body suffix, Blanks a ∧ Blanks between ∧ between ≠ [] ∧ Blanks gap ∧
        SpellsParams params body ∧ IsSuffix suffix ∧
        cs = a ++ result.toList ++ between ++ human.toList ++ gap ++
          '(' :: (body ++ ')' :: suffix) := by
  have hblank : isBlank '(' = false := by decide
  constructor
  · intro h
    unfold readCallable at h
    split at h
    · cases h
    · next head rest hopening =>
      split at h
      · cases h
      · next body suffix hclosing =>
        split at h
        · cases h
        · next hsuffix =>
          split at h
          · next first second hwords =>
            obtain ⟨result, rfl⟩ := exists_toList_eq first
            obtain ⟨human, rfl⟩ := exists_toList_eq second
            obtain ⟨params, hread, hdeclare⟩ := map_eq_ok_iff.1 h
            obtain ⟨hparams, hbody⟩ := readParams_eq_ok_iff.1 hread
            obtain ⟨rfl, hplain⟩ := cutFirst?_char_eq_some_iff.1 hopening
            obtain ⟨rfl, -⟩ := cutLast?_char_eq_some_iff.1 hclosing
            obtain ⟨hresult, hhuman, a, between, gap, ha, hbetween, hne, hgap, rfl⟩ :=
              words_eq_pair_iff.1 hwords
            simp only [List.mem_append, not_or] at hplain
            obtain ⟨⟨⟨⟨-, hresult'⟩, -⟩, hhuman'⟩, -⟩ := hplain
            rw [String.ofList_toList, String.ofList_toList] at hdeclare
            exact ⟨result, human, params, hdeclare.symm, ⟨hresult, hresult'⟩, ⟨hhuman, hhuman'⟩,
              hparams, a, between, gap, body, suffix, ha, hbetween, hne, hgap, hbody,
              isLineSuffix_iff.1 (by simpa using hsuffix), rfl⟩
          · cases h
  · rintro ⟨result, human, params, rfl, hresult, hhuman, hparams, a, between, gap, body, suffix, ha,
      hbetween, hne, hgap, hbody, hsuffix, rfl⟩
    have hplain : '(' ∉ a ++ result.toList ++ between ++ human.toList ++ gap := by
      simp only [List.mem_append, not_or]
      exact ⟨⟨⟨⟨not_mem_blanks hblank ha, hresult.opening⟩, not_mem_blanks hblank hbetween⟩,
        hhuman.opening⟩, not_mem_blanks hblank hgap⟩
    have hwords := words_eq_pair_iff.2 ⟨hresult.isWord, hhuman.isWord, a, between, gap, ha,
      hbetween, hne, hgap, rfl⟩
    have hread := readParams_eq_ok_iff.2 ⟨hparams, hbody⟩
    simp only [readCallable, cutFirst?_char_eq_some_iff.2 ⟨rfl, hplain⟩,
      cutLast?_char_eq_some_iff.2 ⟨rfl, closing_not_mem_suffix hsuffix⟩,
      isLineSuffix_iff.2 hsuffix, Bool.not_true, Bool.false_eq_true, if_false, hwords, hread,
      String.ofList_toList]
    rfl

theorem readHeader_eq_ok_iff {cs : List Char} {v : Declaration} :
    readHeader cs = .ok v ↔ ∃ human obfuscated, v = header human obfuscated ∧ IsWord human ∧
      IsWord obfuscated ∧ ∃ a w w' gap, Blanks a ∧ Blanks w ∧ Blanks w' ∧ Blanks gap ∧
        ¬ LooksLikeArrow obfuscated (' ' :: w') gap ∧
        cs = a ++ human.toList ++ w ++ arrow ++ (w' ++ obfuscated.toList ++ gap) ++ [':'] := by
  constructor
  · intro h
    unfold readHeader at h
    split at h
    · cases h
    · next hcolon =>
      rw [bne_iff_ne, not_not] at hcolon
      obtain ⟨⟨left, right⟩, hcut, hread⟩ := bind_eq_ok_iff.1 h
      obtain ⟨human, rfl⟩ := exists_toList_eq left
      obtain ⟨obfuscated, rfl⟩ := exists_toList_eq right
      simp only at hread
      split at hread
      · cases hread
      · next hblank =>
        cases hread
        obtain ⟨hne, -, hobfuscated, a, w, w', gap, ha, hw, hw', hgap, hcs, hlast⟩ :=
          cutArrow_eq_ok_iff.1 hcut
        have hhuman : IsWord human := isWord_iff.2 ⟨hne, Bool.eq_false_iff.2 hblank⟩
        rw [String.ofList_toList, String.ofList_toList]
        refine ⟨human, obfuscated, rfl, hhuman, hobfuscated, a, w, w', gap, ha, hw, hw', hgap,
          hlast, ?_⟩
        rw [← hcs, List.dropLast_append_getLast? _ hcolon]
  · rintro ⟨human, obfuscated, rfl, hhuman, hobfuscated, a, w, w', gap, ha, hw, hw', hgap, hlast,
      rfl⟩
    have hcut := cutArrow_eq_ok_iff.2 ⟨hhuman.toList_ne_nil, hhuman.trimmed, hobfuscated, a, w, w',
      gap, ha, hw, hw', hgap, rfl, hlast⟩
    obtain ⟨-, hblank⟩ := isWord_iff.1 hhuman
    unfold readHeader
    rw [List.getLast?_concat, List.dropLast_concat, hcut]
    simp only [bne_self_eq_false, Bool.false_eq_true, if_false, bind, Except.bind, hblank,
      String.ofList_toList]

theorem readField_eq_ok_iff {cs : List Char} {v : Declaration} :
    readField cs = .ok v ↔ ∃ type human obfuscated, v = field type human obfuscated ∧
      IsWord type ∧ IsWord human ∧ IsWord obfuscated ∧
      ∃ a between w w' gap, Blanks a ∧ Blanks between ∧ between ≠ [] ∧ Blanks w ∧ Blanks w' ∧
        Blanks gap ∧ ¬ LooksLikeArrow obfuscated (' ' :: w') gap ∧
        cs = a ++ type.toList ++ between ++ human.toList ++ w ++ arrow ++
          (w' ++ obfuscated.toList ++ gap) := by
  constructor
  · intro h
    obtain ⟨⟨left, right⟩, hcut, hread⟩ := bind_eq_ok_iff.1 h
    obtain ⟨obfuscated, rfl⟩ := exists_toList_eq right
    simp only at hread
    split at hread
    · next first second hwords =>
      cases hread
      obtain ⟨type, rfl⟩ := exists_toList_eq first
      obtain ⟨human, rfl⟩ := exists_toList_eq second
      obtain ⟨-, -, hobfuscated, a, w, w', gap, ha, hw, hw', hgap, rfl, hlast⟩ :=
        cutArrow_eq_ok_iff.1 hcut
      obtain ⟨htype, hhuman, front, between, back, hfront, hbetween, hne, hback, rfl⟩ :=
        words_eq_pair_iff.1 hwords
      simp only [String.ofList_toList]
      exact ⟨type, human, obfuscated, rfl, htype, hhuman, hobfuscated, a ++ front, between,
        back ++ w, w', gap, ha.append hfront, hbetween, hne, hback.append hw, hw', hgap, hlast,
        by simp⟩
    · cases hread
  · rintro ⟨type, human, obfuscated, rfl, htype, hhuman, hobfuscated, a, between, w, w', gap, ha,
      hbetween, hne, hw, hw', hgap, hlast, rfl⟩
    have hleft := htype.trimmed.append htype.toList_ne_nil hhuman.trimmed hhuman.toList_ne_nil
      between
    have hcut := cutArrow_eq_ok_iff.2 ⟨by simp [htype.toList_ne_nil], hleft, hobfuscated, a, w, w',
      gap, ha, hw, hw', hgap, rfl, hlast⟩
    have hwords := words_eq_pair_iff.2 ⟨htype, hhuman, [], between, [], blanks_nil, hbetween, hne,
      blanks_nil, rfl⟩
    simp only [List.append_assoc, List.nil_append, List.append_nil] at hcut hwords ⊢
    simp only [readField, hcut, bind, Except.bind, hwords, String.ofList_toList]

/-- A line that starts with a digit starts with a range of line numbers. -/
def HasRange (cs range : List Char) : Prop :=
  if cs.head?.any Char.isDigit then IsRange range else range = []

theorem readMethod_eq_ok {cs : List Char} {v : Declaration} :
    readMethod cs = .ok v ↔ ∃ range rest, HasRange cs range ∧ cs = range ++ rest ∧
      ∃ left obfuscated declare, cutArrow rest = .ok (left, String.toList obfuscated) ∧
        readCallable left = .ok declare ∧ v = declare obfuscated := by
  have hsides : ∀ rest : List Char, (do
      let sides ← cutArrow rest
      let declare ← readCallable sides.1
      return declare (String.ofList sides.2)) = Except.ok v ↔
        ∃ left obfuscated declare, cutArrow rest = .ok (left, String.toList obfuscated) ∧
          readCallable left = .ok declare ∧ v = declare obfuscated := by
    intro rest
    constructor
    · intro h
      obtain ⟨⟨left, right⟩, hcut, h⟩ := bind_eq_ok_iff.1 h
      obtain ⟨declare, hdeclare, h⟩ := bind_eq_ok_iff.1 h
      obtain ⟨obfuscated, rfl⟩ := exists_toList_eq right
      cases h
      exact ⟨left, obfuscated, declare, hcut, hdeclare, by rw [String.ofList_toList]⟩
    · rintro ⟨left, obfuscated, declare, hcut, hdeclare, rfl⟩
      simp only [hcut, hdeclare, bind, Except.bind, String.ofList_toList]
      rfl
  simp only [← hsides, HasRange]
  unfold readMethod
  by_cases hdigit : cs.head?.any Char.isDigit = true
  · simp only [hdigit, if_true]
    cases hdrop : dropLineRange? cs with
    | some behind =>
      constructor
      · intro h
        obtain ⟨range, hrange, hcs⟩ := dropLineRange?_eq_some_iff.1 hdrop
        exact ⟨range, behind, hrange, hcs, h⟩
      · rintro ⟨range, rest, hrange, hcs, h⟩
        rw [dropLineRange?_eq_some_iff.2 ⟨range, hrange, hcs⟩] at hdrop
        cases hdrop
        exact h
    | none =>
      constructor
      · intro h
        cases h
      · rintro ⟨range, rest, hrange, hcs, -⟩
        rw [dropLineRange?_eq_some_iff.2 ⟨range, hrange, hcs⟩] at hdrop
        cases hdrop
  · simp only [hdigit, if_false, Bool.false_eq_true]
    constructor
    · intro h
      exact ⟨[], cs, rfl, rfl, h⟩
    · rintro ⟨range, rest, rfl, rfl, h⟩
      exact h

theorem readMethod_eq_ok_iff {cs : List Char} {v : Declaration} :
    readMethod cs = .ok v ↔ ∃ result human params obfuscated,
      v = method result human params obfuscated ∧ IsPlain result ∧ IsPlain human ∧
      (∀ param ∈ params, IsParam param) ∧ IsWord obfuscated ∧
      ∃ range skip between gap body suffix w w' back,
        HasRange cs range ∧ Blanks skip ∧ Blanks between ∧ between ≠ [] ∧ Blanks gap ∧
        SpellsParams params body ∧ IsSuffix suffix ∧ Blanks w ∧ Blanks w' ∧ Blanks back ∧
        ¬ LooksLikeArrow obfuscated (' ' :: w') back ∧
        cs = range ++ skip ++ result.toList ++ between ++ human.toList ++ gap ++
          '(' :: (body ++ ')' :: suffix) ++ w ++ arrow ++ (w' ++ obfuscated.toList ++ back) := by
  rw [readMethod_eq_ok]
  constructor
  · rintro ⟨range, rest, hrange, hcs, left, obfuscated, declare, hcut, hdeclare, rfl⟩
    obtain ⟨-, -, hobfuscated, a, w, w', back, ha, hw, hw', hback, rfl, hlast⟩ :=
      cutArrow_eq_ok_iff.1 hcut
    obtain ⟨result, human, params, rfl, hresult, hhuman, hparams, front, between, gap, body, suffix,
      hfront, hbetween, hne, hgap, hbody, hsuffix, rfl⟩ := readCallable_eq_ok_iff.1 hdeclare
    refine ⟨result, human, params, obfuscated, rfl, hresult, hhuman, hparams, hobfuscated, range,
      a ++ front, between, gap, body, suffix, w, w', back, hrange, ha.append hfront, hbetween, hne,
      hgap, hbody, hsuffix, hw, hw', hback, hlast, ?_⟩
    simpa using hcs
  · rintro ⟨result, human, params, obfuscated, rfl, hresult, hhuman, hparams, hobfuscated, range,
      skip, between, gap, body, suffix, w, w', back, hrange, hskip, hbetween, hne, hgap, hbody,
      hsuffix, hw, hw', hback, hlast, hcs⟩
    have hclosing := isWord_closing hsuffix
    have hleft := hresult.isWord.trimmed.append hresult.isWord.toList_ne_nil hclosing.trimmed
      hclosing.toList_ne_nil (between ++ human.toList ++ gap ++ '(' :: body)
    have hcut := cutArrow_eq_ok_iff.2 ⟨by simp, hleft, hobfuscated, skip, w, w', back, hskip, hw,
      hw', hback, rfl, hlast⟩
    have hdeclare := readCallable_eq_ok_iff.2 ⟨result, human, params, rfl, hresult, hhuman, hparams,
      [], between, gap, body, suffix, blanks_nil, hbetween, hne, hgap, hbody, hsuffix, rfl⟩
    refine ⟨range, _, hrange, ?_, _, obfuscated, _, hcut, ?_, rfl⟩
    · rw [hcs]
      simp
    · rw [← hdeclare]
      simp

/-! ## Reading a line -/

section Line

variable {lead cs tail : List Char} {v : Declaration}

theorem read_of_readHeader (hv : readHeader cs = .ok v) (hcs : Trimmed cs) (htail : Blanks tail)
    (hhead : ¬ (cs ++ tail).head?.any isBlank = true) :
    read (String.ofList (cs ++ tail)) = .ok v := by
  have htrim : trim (cs ++ tail) = cs := trim_append blanks_nil hcs htail
  rw [Bool.not_eq_true] at hhead
  simp only [read, String.toList_ofList, htrim, hhead, Bool.not_false, if_true, hv, mapError_ok]

/-- A line that starts with a blank is that of a method if it has a parenthesis in it or starts with
a digit behind the blanks, and that of a field if not. -/
theorem read_of_readMember (hlead : Blanks lead) (hne : lead ≠ []) (hcs : Trimmed cs)
    (htail : Blanks tail)
    (hv : (if '(' ∈ cs ∨ cs.head?.any Char.isDigit then readMethod cs else readField cs) = .ok v) :
    read (String.ofList (lead ++ cs ++ tail)) = .ok v := by
  have htrim : trim (lead ++ cs ++ tail) = cs := trim_append hlead hcs htail
  obtain ⟨c, row, rfl⟩ := List.exists_cons_of_ne_nil hne
  have hhead : ((c :: row) ++ cs ++ tail).head?.any isBlank = true :=
    hlead c (List.mem_cons_self ..)
  simp only [read, String.toList_ofList, htrim, hhead, Bool.not_true, Bool.false_eq_true, if_false,
    Bool.or_eq_true, List.contains_iff_mem]
  split at hv
  · next hmethod => rw [if_pos hmethod, hv, mapError_ok]
  · next hmethod => rw [if_neg hmethod, hv, mapError_ok]

end Line

theorem not_isBlank_head?_append {word : String} (h : IsWord word) (rest : List Char) :
    ¬ (word.toList ++ rest).head?.any isBlank = true := by
  obtain ⟨c, cs, hcs, hc⟩ := h.head
  rw [hcs]
  simp [hc]

theorem not_looksLikeArrow_nil {obfuscated : String} {before : List Char} :
    ¬ LooksLikeArrow obfuscated before [] := by
  rintro ⟨-, -, hhead⟩
  cases hhead

theorem isWord_range {range : List Char} (h : IsRange range) :
    ∃ word, IsWord word ∧ word.toList = range ∧ StartsWithDigit word := by
  obtain ⟨first, last, ⟨hne, hfirst⟩, ⟨-, hlast⟩, rfl⟩ := h
  obtain ⟨c, cs, rfl⟩ := List.exists_cons_of_ne_nil hne
  refine ⟨String.ofList (c :: cs ++ ':' :: last ++ [':']), ⟨by simp, ?_⟩, String.toList_ofList, ?_⟩
  · rw [String.toList_ofList]
    have hcolon : isBlank ':' = false := by decide
    have hdigits : ∀ {row : List Char}, (∀ c ∈ row, c.isDigit = true) →
        ∀ c ∈ row, isBlank c = false := fun h c hc => notBlank_of_isDigit (h c hc)
    exact List.forall_mem_append.2 ⟨List.forall_mem_append.2 ⟨hdigits hfirst,
      List.forall_mem_cons.2 ⟨hcolon, hdigits hlast⟩⟩, List.forall_mem_singleton.2 hcolon⟩
  · have hc : c.isDigit = true := hfirst c (List.mem_cons_self ..)
    simpa [StartsWithDigit] using hc

/-! ### Spellings are read -/

theorem read_of_spells_header {human obfuscated : String} {cs : List Char}
    (hv : (header human obfuscated).WellFormed) (h : Spells (.header human obfuscated) cs) :
    read (String.ofList cs) = .ok (.header human obfuscated) := by
  cases h with
  | @header _ _ w w' gap tail hw hw' hgap htail harrow =>
    obtain ⟨hhuman, hobfuscated⟩ := hv
    have hread := readHeader_eq_ok_iff.2 ⟨human, obfuscated, rfl, hhuman, hobfuscated, [], w, w',
      gap, blanks_nil, hw, hw', hgap, harrow, rfl⟩
    have hblank : isBlank ':' = false := by decide
    have hcolon : Trimmed [':'] :=
      ⟨fun c hc => Option.some.inj hc ▸ hblank, fun c hc => Option.some.inj hc ▸ hblank⟩
    have hcs := hhuman.trimmed.append hhuman.toList_ne_nil hcolon (List.cons_ne_nil _ _)
      (w ++ arrow ++ (w' ++ obfuscated.toList ++ gap))
    have hhead := not_isBlank_head?_append hhuman
      (w ++ arrow ++ (w' ++ obfuscated.toList ++ gap) ++ [':'] ++ tail)
    have hline := read_of_readHeader (v := .header human obfuscated) (by simpa using hread) hcs
      htail (by simpa using hhead)
    simpa using hline

theorem read_of_spells_field {type human obfuscated : String} {cs : List Char}
    (hv : (field type human obfuscated).WellFormed) (h : Spells (.field type human obfuscated) cs) :
    read (String.ofList cs) = .ok (.field type human obfuscated) := by
  have hblank : isBlank '(' = false := by decide
  cases h with
  | @field _ _ _ indent between w w' tail hindent hne hbetween hne' hw hw' htail =>
    obtain ⟨⟨htype, htype'⟩, ⟨hhuman, hhuman'⟩, ⟨hobfuscated, hobfuscated'⟩, hdigit⟩ := hv
    have hread := readField_eq_ok_iff.2 ⟨type, human, obfuscated, rfl, htype, hhuman, hobfuscated,
      [], between, w, w', [], blanks_nil, hbetween, hne', hw, hw', blanks_nil,
      not_looksLikeArrow_nil, rfl⟩
    have hcs := htype.trimmed.append htype.toList_ne_nil hobfuscated.trimmed
      hobfuscated.toList_ne_nil (between ++ human.toList ++ w ++ arrow ++ w')
    have hopening : '(' ∉ type.toList ++ (between ++ human.toList ++ w ++ arrow ++ w') ++
        obfuscated.toList := by
      simp only [List.mem_append, not_or]
      exact ⟨⟨htype', ⟨⟨⟨not_mem_blanks hblank hbetween, hhuman'⟩, not_mem_blanks hblank hw⟩,
        by decide⟩, not_mem_blanks hblank hw'⟩, hobfuscated'⟩
    have hplain : ¬ ('(' ∈ type.toList ++ (between ++ human.toList ++ w ++ arrow ++ w') ++
        obfuscated.toList ∨ (type.toList ++ (between ++ human.toList ++ w ++ arrow ++ w') ++
          obfuscated.toList).head?.any Char.isDigit = true) := by
      refine not_or.2 ⟨hopening, ?_⟩
      rw [List.append_assoc, List.head?_append_of_ne_nil _ htype.toList_ne_nil]
      exact hdigit
    have hline := read_of_readMember hindent hne hcs htail
      (v := .field type human obfuscated) (by rw [if_neg hplain]; simpa using hread)
    simpa using hline

theorem read_of_spells_method {result human obfuscated : String} {params : List String}
    {cs : List Char} (hv : (method result human params obfuscated).WellFormed)
    (h : Spells (.method result human params obfuscated) cs) :
    read (String.ofList cs) = .ok (.method result human params obfuscated) := by
  cases h with
  | @method _ _ _ _ indent range skip between gap body suffix w w' tail hindent hne hrange hskip
      hbetween hne' hgap hparams hsuffix hw hw' htail =>
    obtain ⟨hresult, hhuman, hparams', hobfuscated⟩ := hv
    obtain ⟨row, hrow⟩ : ∃ row, row = result.toList ++ between ++ human.toList ++ gap ++
        '(' :: (body ++ ')' :: suffix) ++ w ++ arrow ++ w' ++ obfuscated.toList := ⟨_, rfl⟩
    have htrimmed : Trimmed row := by
      have hends := hresult.isWord.trimmed.append hresult.isWord.toList_ne_nil hobfuscated.trimmed
        hobfuscated.toList_ne_nil
        (between ++ human.toList ++ gap ++ '(' :: (body ++ ')' :: suffix) ++ w ++ arrow ++ w')
      rw [hrow]
      simpa using hends
    have hopening : '(' ∈ row := by
      rw [hrow]
      simp
    have hread : ∀ range skip, HasRange (range ++ skip ++ row) range → Blanks skip →
        readMethod (range ++ skip ++ row) = .ok (.method result human params obfuscated) := by
      intro range skip hrange hskip
      refine readMethod_eq_ok_iff.2 ⟨result, human, params, obfuscated, rfl, hresult, hhuman,
        hparams', hobfuscated, range, skip, between, gap, body, suffix, w, w', [], hrange, hskip,
        hbetween, hne', hgap, hparams, hsuffix, hw, hw', blanks_nil, not_looksLikeArrow_nil, ?_⟩
      rw [hrow]
      simp
    rcases hrange with hrange | ⟨rfl, hdigit⟩
    · obtain ⟨word, hword, rfl, hdigit⟩ := isWord_range hrange
      have hcs := hword.trimmed.append hword.toList_ne_nil htrimmed (List.ne_nil_of_mem hopening)
        skip
      have hhead : (word.toList ++ skip ++ row).head?.any Char.isDigit = true := by
        rw [List.append_assoc, List.head?_append_of_ne_nil _ hword.toList_ne_nil]
        exact hdigit
      have hranged : HasRange (word.toList ++ skip ++ row) word.toList := by
        rw [HasRange, if_pos hhead]
        exact hrange
      have hline := read_of_readMember hindent hne hcs htail
        (v := .method result human params obfuscated)
        (by rw [if_pos (.inr hhead)]; exact hread _ _ hranged hskip)
      rw [hrow] at hline
      simpa using hline
    · -- Without line numbers, the blanks before the result type belong to the indent.
      have hnone : HasRange row [] := by
        rw [HasRange, if_neg]
        rw [hrow]
        simpa [StartsWithDigit, List.head?_append_of_ne_nil _ hresult.isWord.toList_ne_nil]
          using hdigit
      have hline := read_of_readMember (hindent.append hskip) (by simp [hne]) htrimmed htail
        (v := .method result human params obfuscated)
        (by rw [if_pos (.inl hopening)]; exact hread [] [] hnone blanks_nil)
      rw [hrow] at hline
      simpa using hline

theorem read_of_spells {v : Declaration} {cs : List Char} (hv : v.WellFormed) (h : Spells v cs) :
    read (String.ofList cs) = .ok v := by
  cases v with
  | header human obfuscated => exact read_of_spells_header hv h
  | field type human obfuscated => exact read_of_spells_field hv h
  | method result human params obfuscated => exact read_of_spells_method hv h

/-! ### What is read is spelled -/

section Line

variable {lead cs tail : List Char} {v : Declaration}

theorem ne_nil_of_head?_isBlank (hcs : Trimmed cs) (hne : cs ≠ [])
    (h : (lead ++ cs ++ tail).head?.any isBlank = true) : lead ≠ [] := by
  rintro rfl
  obtain ⟨c, row, rfl⟩ := List.exists_cons_of_ne_nil hne
  have hblank : isBlank c = true := h
  rw [hcs.head c rfl] at hblank
  cases hblank

theorem spells_of_readHeader (hlead : Blanks lead) (hcs : Trimmed cs) (htail : Blanks tail)
    (hhead : ¬ (lead ++ cs ++ tail).head?.any isBlank = true) (h : readHeader cs = .ok v) :
    v.WellFormed ∧ Spells v (lead ++ cs ++ tail) := by
  obtain ⟨human, obfuscated, rfl, hhuman, hobfuscated, a, w, w', gap, ha, hw, hw', hgap, hlast,
    rfl⟩ := readHeader_eq_ok_iff.1 h
  have hnone : lead = [] := by
    cases lead with
    | nil => rfl
    | cons c lead => exact absurd (hlead c (List.mem_cons_self ..)) hhead
  simp only [List.append_assoc] at hcs
  have hspells := @Spells.header human _ _ _ _ _ hw hw' hgap htail hlast
  rw [hnone, hcs.eq_nil_of_blanks ha]
  exact ⟨⟨hhuman, hobfuscated⟩, by simpa using hspells⟩

theorem spells_of_readField (hlead : Blanks lead) (hcs : Trimmed cs) (htail : Blanks tail)
    (hhead : (lead ++ cs ++ tail).head?.any isBlank = true) (hopening : '(' ∉ cs)
    (hdigit : ¬ cs.head?.any Char.isDigit = true) (h : readField cs = .ok v) :
    v.WellFormed ∧ Spells v (lead ++ cs ++ tail) := by
  obtain ⟨type, human, obfuscated, rfl, htype, hhuman, hobfuscated, a, between, w, w', gap, ha,
    hbetween, hne, hw, hw', hgap, hlast, rfl⟩ := readField_eq_ok_iff.1 h
  have hindent := ne_nil_of_head?_isBlank hcs (by simp [arrow]) hhead
  simp only [List.append_assoc] at hcs
  have hfront := hcs.eq_nil_of_blanks ha
  rw [hfront] at hdigit hopening ⊢
  simp only [List.mem_append, not_or] at hopening
  obtain ⟨⟨⟨⟨⟨⟨-, htype'⟩, -⟩, hhuman'⟩, -⟩, -⟩, ⟨-, hobfuscated'⟩, -⟩ := hopening
  have hstart : ¬ StartsWithDigit type := by
    simpa [StartsWithDigit, List.head?_append_of_ne_nil _ htype.toList_ne_nil] using hdigit
  have hspells := @Spells.field type human obfuscated _ _ _ _ _ hlead hindent hbetween hne hw hw'
    (hgap.append htail)
  exact ⟨⟨⟨htype, htype'⟩, ⟨hhuman, hhuman'⟩, ⟨hobfuscated, hobfuscated'⟩, hstart⟩,
    by simpa using hspells⟩

theorem spells_of_readMethod (hlead : Blanks lead) (hcs : Trimmed cs) (htail : Blanks tail)
    (hhead : (lead ++ cs ++ tail).head?.any isBlank = true) (h : readMethod cs = .ok v) :
    v.WellFormed ∧ Spells v (lead ++ cs ++ tail) := by
  obtain ⟨result, human, params, obfuscated, rfl, hresult, hhuman, hparams, hobfuscated, range,
    skip, between, gap, body, suffix, w, w', back, hrange, hskip, hbetween, hne, hgap, hbody,
    hsuffix, hw, hw', hback, hlast, rfl⟩ := readMethod_eq_ok_iff.1 h
  have hindent := ne_nil_of_head?_isBlank hcs (by simp) hhead
  have hrange' : IsRange range ∨ range = [] ∧ ¬ StartsWithDigit result := by
    unfold HasRange at hrange
    split at hrange
    · exact .inl hrange
    · next hdigit =>
      rw [hrange, List.nil_append] at hcs hdigit
      simp only [List.append_assoc] at hcs
      rw [hcs.eq_nil_of_blanks hskip] at hdigit
      refine .inr ⟨hrange, ?_⟩
      simpa [StartsWithDigit, List.head?_append_of_ne_nil _ hresult.isWord.toList_ne_nil]
        using hdigit
  have hspells := @Spells.method result human obfuscated params _ _ _ _ _ _ _ _ _ _ hlead hindent
    hrange' hskip hbetween hne hgap hbody hsuffix hw hw' (hback.append htail)
  exact ⟨⟨hresult, hhuman, hparams, hobfuscated⟩, by simpa using hspells⟩

end Line

theorem spells_of_read {line : String} {v : Declaration} (h : read line = .ok v) :
    v.WellFormed ∧ Spells v line.toList := by
  obtain ⟨hcs, lead, tail, hlead, htail, hline⟩ := exists_append_trim line.toList
  unfold read at h
  simp only at h
  generalize trim line.toList = cs at *
  rw [hline] at h ⊢
  split at h
  · next hhead =>
    exact spells_of_readHeader hlead hcs htail (by simpa using hhead) (mapError_eq_ok_iff.1 h)
  · next hhead =>
    have hblank : (lead ++ cs ++ tail).head?.any isBlank = true := by simpa using hhead
    split at h
    · exact spells_of_readMethod hlead hcs htail hblank (mapError_eq_ok_iff.1 h)
    · next hplain =>
      rw [Bool.or_eq_true, not_or, List.contains_iff_mem] at hplain
      exact spells_of_readField hlead hcs htail hblank hplain.1 hplain.2 (mapError_eq_ok_iff.1 h)

/-- A line is read as a declaration if it is a spelling of it, and in no other case. -/
theorem read_eq_ok_iff {line : String} {v : Declaration} :
    read line = .ok v ↔ v.WellFormed ∧ Spells v line.toList := by
  constructor
  · exact spells_of_read
  · rintro ⟨hv, h⟩
    have hread := read_of_spells hv h
    rw [String.ofList_toList] at hread
    exact hread

end NameCarry.Declaration
