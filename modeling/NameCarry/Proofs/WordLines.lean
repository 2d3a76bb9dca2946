import NameCarry.Proofs.ClassNames
import NameCarry.Proofs.Fates
import NameCarry.Proofs.MemberOrigin
import NameCarry.Proofs.Spelling
import NameCarry.Proofs.Unbroken

/-!
# Listings of words

Whatever a transfer is given, its class links are lines of two words, and its member links are lines
of three words for a field and of four for a method (`Transfer.wordLines_run`). Read again, the text
of a listing has the lines that were written.

A mapping gives no name that is not a word, and neither does a link. The types of parameters are
another matter, since a mapping may have blanks in them. But a method is named after a link whose
descriptor is one word, and its types are those that this descriptor stands for. So the descriptor
that is written for it is a word as well.
-/

namespace NameCarry

open Text

/-! ## The names in a mapping -/

/-- A class that has words for names. The types of its members may be anything. -/
structure ClassDecl.Worded (cls : ClassDecl) : Prop where
  obfuscated : IsWord cls.identity.obfuscated
  human : ∀ human, cls.identity.human = some human → IsWord human
  field : ∀ field ∈ cls.fields, IsWord field.obfuscated
  method : ∀ method ∈ cls.methods, IsWord method.obfuscated

namespace ClassDecl.Worded

variable {cls : ClassDecl}

theorem linkTo (h : cls.Worded) (community? : Option String) : (cls.linkTo community?).Worded :=
  ⟨h.obfuscated, h.human, h.field, h.method⟩

theorem carryDecl (h : cls.Worded) (old : Registry) : (old.carryDecl cls).Worded := by
  refine ⟨h.obfuscated, h.human, ?_, ?_⟩
  · intro field hfield
    obtain ⟨bare, hbare, rfl⟩ := List.mem_map.1 hfield
    exact h.field bare hbare
  · intro method hmethod
    obtain ⟨bare, hbare, rfl⟩ := List.mem_map.1 hmethod
    exact h.method bare hbare

end ClassDecl.Worded

theorem isWord_of_fieldOf? {line : String} {field : Identifier} (h : fieldOf? line = some field) :
    IsWord field.obfuscated := by
  unfold fieldOf? at h
  split at h
  · next hread =>
    cases h
    obtain ⟨⟨-, -, hobfuscated, -⟩, -⟩ := Declaration.spells_of_read hread
    exact hobfuscated.isWord
  · cases h

theorem isWord_of_methodOf? {line : String} {method : Identifier}
    (h : methodOf? line = some method) : IsWord method.obfuscated := by
  unfold methodOf? at h
  split at h
  · next hread =>
    cases h
    obtain ⟨⟨-, -, -, hobfuscated⟩, -⟩ := Declaration.spells_of_read hread
    exact hobfuscated
  · cases h

/-- A line that opens a class says its names. -/
theorem Fate.read_of_eq_opened {before : List (Nat × String)} {line human obfuscated : String}
    (h : Fate.of before line = .opened human obfuscated) :
    Declaration.read line = .ok (.header human obfuscated) := by
  cases hread : Declaration.read line with
  | error fault => simp [Fate.of, hread] at h
  | ok declaration =>
    cases declaration with
    | header human' obfuscated' =>
      simp only [Fate.of, hread] at h
      split at h <;> cases h
      rfl
    | field | method =>
      simp only [Fate.of, hread, Fate.ofMember] at h
      split at h
      · cases h
      · split at h <;> cases h

theorem isWord_of_mem_openings {lines : List (Nat × String)} {opening : Opening}
    (h : opening ∈ Fates.openings (fates lines)) :
    IsWord opening.human ∧ IsWord opening.obfuscated := by
  obtain ⟨entry, hentry, hopening⟩ := List.mem_filterMap.1 h
  obtain ⟨place, hplace, rfl⟩ := List.mem_mapIdx.1 hentry
  unfold FatedLine.opening? at hopening
  split at hopening
  · next hfate =>
    cases hopening
    exact (Declaration.spells_of_read (Fate.read_of_eq_opened hfate)).1
  · cases hopening

/-- Every class that is read from a mapping has words for names. -/
theorem worded_of_mem_loadMapping {label text : String} {report : Report} {cls : ClassDecl}
    (hcls : cls ∈ (loadMapping label report text).value.1) : cls.Worded := by
  rw [← Array.mem_toList_iff, toList_loadMapping] at hcls
  obtain ⟨opening, hopening, rfl⟩ := List.mem_map.1 hcls
  obtain ⟨hhuman, hobfuscated⟩ := isWord_of_mem_openings hopening
  refine ⟨hobfuscated, ?_, ?_, ?_⟩
  · intro human hsome
    cases hsome
    exact hhuman
  · intro field hfield
    obtain ⟨line, -, hline⟩ := List.mem_filterMap.1 hfield
    exact isWord_of_fieldOf? hline
  · intro method hmethod
    obtain ⟨line, -, hline⟩ := List.mem_filterMap.1 hmethod
    exact isWord_of_methodOf? hline

/-- A class of which everything that is listed is a word. Only a method with a community name is
listed, so the types of the others may be anything here too. -/
structure ClassDecl.Listable (cls : ClassDecl) : Prop extends cls.Worded where
  community : ∀ name, cls.identity.community = some name → IsWord name
  fieldName : ∀ field ∈ cls.fields, ∀ name, field.community = some name → IsWord name
  methodName : ∀ method ∈ cls.methods, ∀ name, method.community = some name → IsWord name
  methodTypes : ∀ method ∈ cls.methods, method.isLinked →
    (∀ param ∈ method.params, NoBlank param) ∧ ∃ result, method.type = some result ∧ NoBlank result

/-- The name under which the class is written in a type is a word. -/
theorem ClassDecl.Listable.isWord_getD {cls : ClassDecl} (h : cls.Listable) :
    IsWord (cls.identity.community.getD cls.identity.obfuscated) := by
  cases hname : cls.identity.community with
  | none => exact h.obfuscated
  | some name => exact h.community name hname

/-! ## The names in links -/

theorem Registry.FieldOrigin.isWord {registry : Registry} {human name line : String}
    {field : Identifier} (h : registry.FieldOrigin human field name line) : IsWord name := by
  obtain ⟨key, obfuscated, owner, hwords, -⟩ := h
  exact isWord_of_tokens_eq hwords (by simp)

theorem Registry.MethodOrigin.isWord {registry : Registry} {human name line : String}
    {method : Identifier} (h : registry.MethodOrigin human method name line) : IsWord name := by
  obtain ⟨key, obfuscated, descriptor, owner, signature, hwords, -⟩ := h
  exact isWord_of_tokens_eq hwords (by simp)

/-- A method that a line names has the types of the descriptor in the line, which is a word. So
there are no blanks in them, whatever stands in the mapping. -/
theorem Registry.MethodOrigin.noBlank {registry : Registry} {human name line : String}
    {method : Identifier} (hclasses : ∀ cls ∈ registry.classes, cls.Worded)
    (h : registry.MethodOrigin human method name line) :
    (∀ param ∈ method.params, NoBlank param) ∧
      ∃ result, method.type = some result ∧ NoBlank result := by
  obtain ⟨key, obfuscated, descriptor, owner, signature, hwords, -, -, hread, hparams, hresult⟩ := h
  have hdescriptor : IsWord descriptor := isWord_of_tokens_eq hwords (by simp)
  obtain ⟨hparam, hnoBlank⟩ := Signature.noBlank_of_read hdescriptor.notBlank hread
  have hhuman : ∀ {type}, NoBlank type → NoBlank (registry.toHumanType type) :=
    noBlank_toHumanType fun cls hcls name hname => ((hclasses cls hcls).human name hname).notBlank
  constructor
  · intro param hmem
    rw [← hparams] at hmem
    obtain ⟨type, htype, rfl⟩ := List.mem_map.1 hmem
    exact hhuman (hparam type htype)
  · exact ⟨_, hresult.symm, hhuman hnoBlank⟩

namespace Transfer

variable {settings : Settings} {texts : Inputs String}

theorem isWord_of_lastLinkName? {text obfuscated name : String}
    (h : lastLinkName? text obfuscated = some name) : IsWord name := by
  obtain ⟨line, -, hname⟩ := List.mem_filterMap.1 (List.mem_of_getLast? h)
  unfold linkNameIn? at hname
  split at hname
  · next first second rest hwords =>
    split at hname <;> cases hname
    exact isWord_of_tokens_eq hwords (by simp)
  · cases hname

/-- The community name of a class is a word. An anchor need not be one, but it names no class then.
-/
theorem isWord_of_finalName? {anchors : List String} {linkText name : String}
    {old : Array ClassDecl} {cls : ClassDecl} (hold : ∀ cls ∈ old, cls.Worded)
    (h : finalName? anchors linkText old cls = some name) : IsWord name := by
  obtain ⟨namesake, hnamesake, h⟩ := Option.bind_eq_some_iff.1 h
  dsimp only at h
  split at h
  · cases h
    obtain ⟨human, -, hnamesake⟩ := Option.bind_eq_some_iff.1 hnamesake
    obtain ⟨number, -, hnamesake⟩ := Option.bind_eq_some_iff.1 hnamesake
    obtain ⟨other, hother, hnamesake⟩ := Option.bind_eq_some_iff.1 hnamesake
    split at hnamesake <;> cases hnamesake
    exact (hold _ (Array.mem_of_getElem? hother)).obfuscated
  · exact isWord_of_lastLinkName? h

/-! ## The names in a transfer -/

theorem worded_of_mem_linkedOld {cls : ClassDecl}
    (hcls : cls ∈ (linkedOld settings texts).classes) : cls.Worded := by
  rw [classes_linkedOld] at hcls
  obtain ⟨number, hlinked, rfl⟩ := Array.mem_iff_getElem.1 hcls
  have hnumber : number < (oldClasses texts).size := by simpa using hlinked
  have hworded : (oldClasses texts)[number].Worded :=
    worded_of_mem_loadMapping (Array.getElem_mem hnumber)
  rw [getElem_linkFirsts hnumber]
  split
  · exact hworded.linkTo _
  · exact hworded

theorem listable_of_mem_run_new {cls : ClassDecl}
    (hcls : cls ∈ (run settings texts).value.new.classes) : cls.Listable := by
  rw [value_run_new, Registry.classes_ofClasses] at hcls
  obtain ⟨declared, hmem, rfl⟩ := Array.mem_map.1 hcls
  have hworded : declared.Worded := worded_of_mem_loadMapping hmem
  have hdeclared : declared.Declared := declared_of_mem_loadMapping hmem
  obtain ⟨human, hhuman⟩ := hdeclared.human
  -- A method with a community name has a line that it was named by.
  have horigin : ∀ method ∈ declared.methods, ∀ name,
      (method.linkTo ((run settings texts).value.old.carriedMethodName? declared.identity
        method)).community = some name →
      ∃ line, (linkedOld settings texts).MethodOrigin human method name line := by
    intro method hmethod name hname
    rw [Identifier.community_linkTo_of_none (hdeclared.method method hmethod)] at hname
    obtain ⟨line, -, -, horigin⟩ := carriedMethodName?_old hhuman hname
    exact ⟨line.2, horigin⟩
  refine ⟨hworded.carryDecl _, ?_, ?_, ?_, ?_⟩
  · intro name hname
    have hcarried := (Identifier.community_linkTo_of_none hdeclared.community _).symm.trans hname
    rw [carriedClassName?_old] at hcarried
    exact isWord_of_finalName? (fun _ => worded_of_mem_loadMapping) hcarried
  · intro field hfield name hname
    obtain ⟨bare, hbare, rfl⟩ := List.mem_map.1 hfield
    rw [Identifier.community_linkTo_of_none (hdeclared.field bare hbare)] at hname
    obtain ⟨line, -, -, hline⟩ := carriedFieldName?_old hhuman hname
    exact hline.isWord
  · intro method hmethod name hname
    obtain ⟨bare, hbare, rfl⟩ := List.mem_map.1 hmethod
    obtain ⟨line, hline⟩ := horigin bare hbare name hname
    exact hline.isWord
  · intro method hmethod hlinked
    obtain ⟨bare, hbare, rfl⟩ := List.mem_map.1 hmethod
    obtain ⟨name, hname⟩ := Option.isSome_iff_exists.1 hlinked
    obtain ⟨line, hline⟩ := horigin bare hbare name hname
    exact hline.noBlank fun _ => worded_of_mem_linkedOld

/-! ## The lines of the listings -/

/-- The line is made of the given words, with one space between two. -/
structure MadeOf (ws : List String) (line : String) : Prop where
  word : ∀ word ∈ ws, IsWord word
  line : " ".intercalate ws = line

theorem MadeOf.isLine {ws : List String} {line : String} (h : MadeOf ws line) : IsLine line := by
  obtain ⟨hwords, rfl⟩ := h
  exact isLine_intercalate hwords

/-- The line of a class: two words. -/
def IsClassLine (new : Registry) (line : String) : Prop :=
  ∃ cls ∈ new.classes, ∃ name, cls.identity.community = some name ∧
    MadeOf [cls.identity.obfuscated, name] line

/-- The line of a member: three words for a field, and four for a method. -/
inductive IsMemberLine (new : Registry) (line : String) : Prop where
  | field {cls : ClassDecl} {field : Identifier} {owner name : String} (hcls : cls ∈ new.classes)
    (howner : cls.identity.community = some owner) (hfield : field ∈ cls.fields)
    (hname : field.community = some name) (hline : MadeOf [owner, field.obfuscated, name] line)
  | method {cls : ClassDecl} {method : Identifier} {owner result name : String}
    (hcls : cls ∈ new.classes) (howner : cls.identity.community = some owner)
    (hmethod : method ∈ cls.methods) (hname : method.community = some name)
    (hresult : method.type = some result)
    (hline : MadeOf [owner, method.obfuscated,
      (new.toWrittenSignature { params := method.params, result }).descriptor, name] line)

theorem IsMemberLine.isLine {new : Registry} {line : String} (h : IsMemberLine new line) :
    IsLine line := by
  cases h with
  | field _ _ _ _ hline => exact hline.isLine
  | method _ _ _ _ _ hline => exact hline.isLine

theorem isClassLine_of_mem_run {line : String}
    (h : line ∈ (run settings texts).value.classLinks) :
    IsClassLine (run settings texts).value.new line := by
  rw [value_run_classLinks] at h
  obtain ⟨cls, hcls, name, hname, rfl⟩ := Registry.mem_classLinkLines_iff.1 h
  have hlistable := listable_of_mem_run_new hcls
  refine ⟨cls, hcls, name, hname, ?_, rfl⟩
  rw [List.forall_mem_cons, List.forall_mem_singleton]
  exact ⟨hlistable.obfuscated, hlistable.community name hname⟩

theorem isMemberLine_of_mem_run {line : String}
    (h : line ∈ (run settings texts).value.memberLinks) :
    IsMemberLine (run settings texts).value.new line := by
  rw [value_run_memberLinks] at h
  obtain ⟨site, name, hwritten⟩ := Registry.mem_memberLinkLines_iff.1 h
  have hclasses : ∀ cls ∈ (run settings texts).value.new.classes, cls.Listable :=
    fun _ => listable_of_mem_run_new
  cases hwritten with
  | @field _ _ cls key field _ hplace hkey hid hname =>
    have hcls := Array.mem_of_getElem? hplace
    have hfield := List.mem_of_getElem? hid
    have hlistable := hclasses cls hcls
    refine .field hcls hkey hfield hname ⟨?_, rfl⟩
    rw [List.forall_mem_cons, List.forall_mem_cons, List.forall_mem_singleton]
    exact ⟨hlistable.community key hkey, hlistable.field field hfield,
      hlistable.fieldName field hfield name hname⟩
  | @method _ _ cls key method _ hplace hkey hid hname =>
    have hcls := Array.mem_of_getElem? hplace
    have hmethod := List.mem_of_getElem? hid
    have hlistable := hclasses cls hcls
    have hlinked : method.isLinked := Option.isSome_iff_exists.2 ⟨name, hname⟩
    obtain ⟨hparams, result, hresult, hnoBlank⟩ := hlistable.methodTypes method hmethod hlinked
    have hdescriptor := Registry.isWord_descriptor_toWrittenSignature
      (fun other hother => (hclasses other hother).isWord_getD.notBlank) hparams hnoBlank
    rw [hresult]
    refine .method hcls hkey hmethod hname hresult ⟨?_, rfl⟩
    rw [List.forall_mem_cons, List.forall_mem_cons, List.forall_mem_cons,
      List.forall_mem_singleton]
    exact ⟨hlistable.community key hkey, hlistable.method method hmethod, hdescriptor,
      hlistable.methodName method hmethod name hname⟩

/-- Whatever a transfer is given, the links that it lists are lines of words, and their text has
these lines. -/
theorem wordLines_run (settings : Settings) (texts : Inputs String) :
    (∀ line ∈ (run settings texts).value.classLinks,
        IsClassLine (run settings texts).value.new line) ∧
      (∀ line ∈ (run settings texts).value.memberLinks,
        IsMemberLine (run settings texts).value.new line) ∧
      linesOf (joinLines (run settings texts).value.classLinks) =
        (run settings texts).value.classLinks ∧
      linesOf (joinLines (run settings texts).value.memberLinks) =
        (run settings texts).value.memberLinks := by
  refine ⟨fun _ => isClassLine_of_mem_run, fun _ => isMemberLine_of_mem_run, ?_, ?_⟩
  · apply linesOf_joinLines
    intro line hline
    obtain ⟨_, _, _, _, hmade⟩ := isClassLine_of_mem_run hline
    exact hmade.isLine
  · apply linesOf_joinLines
    intro line hline
    exact (isMemberLine_of_mem_run hline).isLine

end Transfer

end NameCarry
