import Mathlib.Data.List.Forall2
import NameCarry.Proofs.Listings
import NameCarry.Proofs.WordLines

/-!
# Exclusions

Exclusion lists are taken from build to build along the human names of the classes. Between mappings
that tell their classes apart (`Registry.Unambiguous`), that is a partial bijection of the obfuscated
names: it is undone by the way back, it leads no two classes to one name, and a detour over a third
build leads to the same name as the direct way (`Registry.exclusions_partialBijection`). The lists
themselves are taken over line by line (`Exclusion.RewrittenAs`) and sorted.

All of it comes from one equivalence, which says of the names what `Registry.Continues` says of the
classes (`Registry.Unambiguous.renamedExclusion?_eq_some_iff`).
-/

namespace NameCarry

open Text

variable {a b c old new : Registry}

/-- The class name that a line of an exclusion list stands for. -/
def Exclusion.key (line : String) : String :=
  Text.dotted (String.ofList (Text.trim line.toList))

namespace Registry

/-! ## Classes that two builds have in common -/

/-- A class of the old build and the class of the new build that has its human name. -/
structure Continues (old new : Registry) (former present : ClassDecl) : Prop where
  inOld : former ∈ old.classes
  inNew : present ∈ new.classes
  human : ∃ human, former.identity.human = some human ∧ present.identity.human = some human

section Continues

variable {former present : ClassDecl}

theorem Continues.symm (h : Continues old new former present) : Continues new old present former where
  inOld := h.inNew
  inNew := h.inOld
  human := by
    obtain ⟨human, hformer, hpresent⟩ := h.human
    exact ⟨human, hpresent, hformer⟩

theorem Continues.trans {first second third : ClassDecl} (hab : Continues a b first second)
    (hbc : Continues b c second third) : Continues a c first third where
  inOld := hab.inOld
  inNew := hbc.inNew
  human := by
    obtain ⟨human, hfirst, hsecond⟩ := hab.human
    obtain ⟨human', hsecond', hthird⟩ := hbc.human
    obtain rfl : human = human' := Option.some_inj.1 (hsecond.symm.trans hsecond')
    exact ⟨human, hfirst, hthird⟩

/-- A class is continued in a third build as it is from the build in between. -/
theorem Continues.continues_iff (h : Continues a b former present) {last : ClassDecl} :
    Continues b c present last ↔ Continues a c former last :=
  ⟨h.trans, h.symm.trans⟩

end Continues

/-! ## Names of exclusions -/

/-- A build that was read from a mapping and in which the classes are told apart by their obfuscated
names, which have no slashes, and by their human names. -/
structure Unambiguous (registry : Registry) : Prop where
  /-- The registry is the one of a mapping. -/
  loaded : ∃ label report text, registry = ofClasses (loadMapping label report text).value.1
  /-- Two classes differ in their obfuscated names. -/
  obfuscated : (registry.classes.toList.map (·.identity.obfuscated)).Nodup
  /-- No obfuscated name has a slash. -/
  slash : ∀ cls ∈ registry.classes, '/' ∉ cls.identity.obfuscated.toList
  /-- Two classes differ in their human names. -/
  human : (registry.classes.toList.map (·.identity.human)).Nodup

namespace Unambiguous

variable {line name : String}

theorem indexed (h : old.Unambiguous) : old.Indexed := by
  obtain ⟨label, report, text, rfl⟩ := h.loaded
  exact indexed_ofClasses _

/-- An obfuscated name stands for itself, as it is a word without slashes. -/
theorem key_obfuscated (h : old.Unambiguous) {cls : ClassDecl} (hcls : cls ∈ old.classes) :
    Exclusion.key cls.identity.obfuscated = cls.identity.obfuscated := by
  have hword : IsWord cls.identity.obfuscated := by
    obtain ⟨label, report, text, rfl⟩ := h.loaded
    exact (worded_of_mem_loadMapping hcls).obfuscated
  rw [Exclusion.key, hword.trim_eq, String.ofList_toList, dotted_eq_self (h.slash cls hcls)]

/-- A name leads to the name of the class that continues the class with the first name. -/
theorem renamedExclusion?_eq_some_iff (hold : old.Unambiguous) (hnew : new.Unambiguous) :
    old.renamedExclusion? new line = some name ↔
      ∃ former present, Continues old new former present ∧
        former.identity.obfuscated = Exclusion.key line ∧ present.identity.obfuscated = name := by
  simp only [renamedExclusion?, Option.bind_eq_some_iff, Option.map_eq_some_iff,
    hold.indexed.obfuscatedClass?_eq_some_iff hold.obfuscated,
    hnew.indexed.humanClass?_eq_some_iff hnew.human]
  constructor
  · rintro ⟨human, ⟨former, ⟨hformer, hkey⟩, hhuman⟩, present, ⟨hpresent, hhuman'⟩, hname⟩
    exact ⟨former, present, ⟨hformer, hpresent, human, hhuman, hhuman'⟩, hkey, hname⟩
  · rintro ⟨former, present, ⟨hformer, hpresent, human, hhuman, hhuman'⟩, hkey, hname⟩
    exact ⟨human, ⟨former, ⟨hformer, hkey⟩, hhuman⟩, present, ⟨hpresent, hhuman'⟩, hname⟩

theorem renamedExclusion?_obfuscated_eq_some_iff (hold : old.Unambiguous) (hnew : new.Unambiguous)
    {former : ClassDecl} (hformer : former ∈ old.classes) :
    old.renamedExclusion? new former.identity.obfuscated = some name ↔
      ∃ present, Continues old new former present ∧ present.identity.obfuscated = name := by
  rw [hold.renamedExclusion?_eq_some_iff hnew, hold.key_obfuscated hformer]
  constructor
  · rintro ⟨other, present, hcontinues, hsame, hname⟩
    obtain rfl : other = former := List.inj_on_of_nodup_map hold.obfuscated
      hcontinues.inOld.val hformer.val hsame
    exact ⟨present, hcontinues, hname⟩
  · rintro ⟨present, hcontinues, hname⟩
    exact ⟨former, present, hcontinues, rfl, hname⟩

theorem renamedExclusion?_back (ha : a.Unambiguous) (hb : b.Unambiguous) {former : ClassDecl}
    (hformer : former ∈ a.classes)
    (h : a.renamedExclusion? b former.identity.obfuscated = some name) :
    b.renamedExclusion? a name = some former.identity.obfuscated := by
  obtain ⟨present, hcontinues, rfl⟩ :=
    (ha.renamedExclusion?_obfuscated_eq_some_iff hb hformer).1 h
  exact (hb.renamedExclusion?_obfuscated_eq_some_iff ha hcontinues.inNew).2
    ⟨former, hcontinues.symm, rfl⟩

theorem renamedExclusion?_onward (ha : a.Unambiguous) (hb : b.Unambiguous) (hc : c.Unambiguous)
    {former : ClassDecl} (hformer : former ∈ a.classes)
    (h : a.renamedExclusion? b former.identity.obfuscated = some name) :
    b.renamedExclusion? c name = a.renamedExclusion? c former.identity.obfuscated := by
  obtain ⟨present, hcontinues, rfl⟩ :=
    (ha.renamedExclusion?_obfuscated_eq_some_iff hb hformer).1 h
  ext last
  rw [hb.renamedExclusion?_obfuscated_eq_some_iff hc hcontinues.inNew,
    ha.renamedExclusion?_obfuscated_eq_some_iff hc hformer]
  simp only [hcontinues.continues_iff]

end Unambiguous

end Registry

/-! ## Lines of exclusions -/

/-- What becomes of a line on the way from the old build to the new one. -/
inductive Exclusion.RewrittenAs (old new : Registry) (line : String) : String → Prop where
  /-- A blank line or a comment stays. -/
  | ignored (hline : Text.isIgnored line = true) : RewrittenAs old new line line
  /-- A line stays if it does not stand for a class that the new build has as well. -/
  | unmatched (hline : ∀ former present, Registry.Continues old new former present →
      former.identity.obfuscated ≠ Exclusion.key line) : RewrittenAs old new line line
  /-- A line that stands for such a class becomes its name in the new build. -/
  | matched (former present : ClassDecl) (hline : Text.isIgnored line = false)
      (hcontinues : Registry.Continues old new former present)
      (hkey : former.identity.obfuscated = Exclusion.key line) :
      RewrittenAs old new line present.identity.obfuscated

namespace Exclusion

variable (hold : old.Unambiguous) (hnew : new.Unambiguous) {line written : String}

include hold hnew

theorem rewrittenAs_ofLine (line : String) :
    RewrittenAs old new line (ofLine old new line).line := by
  unfold ofLine
  cases hignored : isIgnored line with
  | true => exact .ignored hignored
  | false =>
    rw [if_neg Bool.false_ne_true]
    cases hname : old.renamedExclusion? new line with
    | some name =>
      obtain ⟨former, present, hcontinues, hkey, rfl⟩ :=
        (hold.renamedExclusion?_eq_some_iff hnew).1 hname
      exact .matched former present hignored hcontinues hkey
    | none =>
      refine .unmatched fun former present hcontinues hkey => ?_
      have hsome := (hold.renamedExclusion?_eq_some_iff hnew).2
        ⟨former, present, hcontinues, hkey, rfl⟩
      rw [hname] at hsome
      cases hsome

theorem RewrittenAs.line_ofLine (h : RewrittenAs old new line written) :
    (ofLine old new line).line = written := by
  unfold ofLine
  cases h with
  | ignored hline =>
    rw [if_pos hline]
    rfl
  | unmatched hline =>
    have hname : old.renamedExclusion? new line = none := by
      cases hname : old.renamedExclusion? new line with
      | none => rfl
      | some name =>
        obtain ⟨former, present, hcontinues, hkey, -⟩ :=
          (hold.renamedExclusion?_eq_some_iff hnew).1 hname
        exact absurd hkey (hline former present hcontinues)
    rw [hname]
    split <;> rfl
  | matched former present hline hcontinues hkey =>
    have hname := (hold.renamedExclusion?_eq_some_iff hnew).2
      ⟨former, present, hcontinues, hkey, rfl⟩
    rw [hline, if_neg Bool.false_ne_true, hname]
    rfl

/-- Each line of a list becomes one line, and those are the lines that are written. -/
theorem forall₂_rewrittenAs_iff {text : String} {lines : List String} :
    List.Forall₂ (RewrittenAs old new) (Text.linesOf text) lines ↔
      (ofText old new text).map Exclusion.line = lines := by
  have hrelation : RewrittenAs old new = fun line written => (ofLine old new line).line = written := by
    funext line written
    apply propext
    constructor
    · exact RewrittenAs.line_ofLine hold hnew
    · rintro rfl
      exact rewrittenAs_ofLine hold hnew line
  rw [hrelation, ← List.forall₂_map_left_iff, List.forall₂_eq_eq_eq, ofText, List.map_map]
  rfl

end Exclusion

/-- Exclusions are taken from build to build by a partial bijection of the obfuscated names, which
does not depend on the builds in between; and a list of them is taken over line by line and sorted.
-/
theorem Registry.exclusions_partialBijection (ha : a.Unambiguous) (hb : b.Unambiguous)
    (hc : c.Unambiguous) :
    (∀ former ∈ a.classes, ∀ name,
      a.renamedExclusion? b former.identity.obfuscated = some name →
        b.renamedExclusion? a name = some former.identity.obfuscated ∧
        b.renamedExclusion? c name = a.renamedExclusion? c former.identity.obfuscated) ∧
    (∀ first ∈ a.classes, ∀ second ∈ a.classes, ∀ name,
      a.renamedExclusion? b first.identity.obfuscated = some name →
        a.renamedExclusion? b second.identity.obfuscated = some name → first = second) ∧
    ∀ text,
      (Exclusion.listing (Exclusion.ofText a b text)).Pairwise (· ≤ ·) ∧
      ∃! lines, List.Forall₂ (Exclusion.RewrittenAs a b) (Text.linesOf text) lines ∧
        (Exclusion.listing (Exclusion.ofText a b text)).Perm lines := by
  refine ⟨?_, ?_, ?_⟩
  · intro former hformer name hname
    exact ⟨ha.renamedExclusion?_back hb hformer hname,
      ha.renamedExclusion?_onward hb hc hformer hname⟩
  · intro first hfirst second hsecond name hname hname'
    have hback := ha.renamedExclusion?_back hb hfirst hname
    have hback' := ha.renamedExclusion?_back hb hsecond hname'
    exact List.inj_on_of_nodup_map ha.obfuscated hfirst.val hsecond.val
      (Option.some_inj.1 (hback.symm.trans hback'))
  · intro text
    refine ⟨pairwise_sortLines _, (Exclusion.ofText a b text).map Exclusion.line, ?_, ?_⟩
    · exact ⟨(Exclusion.forall₂_rewrittenAs_iff ha hb).2 rfl, sortLines_perm _⟩
    · rintro lines ⟨hlines, -⟩
      exact ((Exclusion.forall₂_rewrittenAs_iff ha hb).1 hlines).symm

/-- The registry of a mapping. -/
def ofMapping (text : String) : Registry :=
  .ofClasses (loadMapping "build" { source := "build" } text).value.1

/-- In the second build the owl has another name, and a new class has its former one. -/
theorem Registry.exclusions_partialBijection_owl :
    (ofMapping "Owl -> x:\nKite -> w:").renamedExclusion? (ofMapping "Owl -> y:\nJay -> x:") "x" =
        some "y" ∧
      (ofMapping "Owl -> y:\nJay -> x:").renamedExclusion? (ofMapping "Owl -> x:\nKite -> w:") "y" =
        some "x" ∧
      (ofMapping "Owl -> y:\nJay -> x:").renamedExclusion? (ofMapping "Owl -> z:") "y" =
        (ofMapping "Owl -> x:\nKite -> w:").renamedExclusion? (ofMapping "Owl -> z:") "x" := by
  have ha : (ofMapping "Owl -> x:\nKite -> w:").Unambiguous :=
    ⟨⟨_, _, _, rfl⟩, by decide +kernel, by decide +kernel, by decide +kernel⟩
  have hb : (ofMapping "Owl -> y:\nJay -> x:").Unambiguous :=
    ⟨⟨_, _, _, rfl⟩, by decide +kernel, by decide +kernel, by decide +kernel⟩
  have hc : (ofMapping "Owl -> z:").Unambiguous :=
    ⟨⟨_, _, _, rfl⟩, by decide +kernel, by decide +kernel, by decide +kernel⟩
  have howl : { identity := .ofClass "x" "Owl" } ∈ (ofMapping "Owl -> x:\nKite -> w:").classes := by
    decide +kernel
  have hname : (ofMapping "Owl -> x:\nKite -> w:").renamedExclusion?
      (ofMapping "Owl -> y:\nJay -> x:") "x" = some "y" := by
    decide +kernel
  exact ⟨hname, (exclusions_partialBijection ha hb hc).1 _ howl "y" hname⟩

end NameCarry
