import NameCarry.Proofs.Descriptors
import NameCarry.Proofs.Lines
import NameCarry.Proofs.Links
import NameCarry.Registry.Types

/-!
# Types without blanks

The types that a descriptor without blanks stands for have names without blanks
(`Signature.noBlank_of_read`), and types with such names have a descriptor that is a word
(`Signature.isWord_descriptor_of_noBlank`). In between, a type may be taken from one naming of a
build to another: no blank comes in if there is none in the names of the classes.
-/

namespace NameCarry

open Text

/-- A text without blanks. It may be empty. -/
def Text.NoBlank (name : String) : Prop :=
  ∀ c ∈ name.toList, isBlank c = false

/-! ## Type names -/

theorem noBlank_withDimensions {base : String} (h : NoBlank base) (depth : Nat) :
    NoBlank (withDimensions base depth) := by
  intro c hc
  rw [withDimensions, String.toList_ofList] at hc
  rcases List.mem_append.1 hc with hbase | hpairs
  · exact h c hbase
  · obtain ⟨pair, hpair, hc⟩ := List.mem_flatten.1 hpairs
    rw [List.eq_of_mem_replicate hpair] at hc
    rcases List.mem_pair.1 hc with rfl | rfl
    · decide
    · decide

theorem noBlank_splitDimensions {name : String} (h : NoBlank name) :
    NoBlank (splitDimensions name).1 := by
  intro c hc
  have hname := congrArg String.toList (withDimensions_splitDimensions name)
  rw [withDimensions, String.toList_ofList] at hname
  apply h c
  rw [← hname]
  exact List.mem_append_left _ hc

theorem noBlank_name_primitive (type : Primitive) : NoBlank type.name := by
  have hall : type.name.toList.all (!isBlank ·) = true := by cases type <;> decide +kernel
  simpa [NoBlank] using hall

/-! ## Types that are read from a descriptor -/

theorem BaseType.noBlank_of_next {cs rest : List Char} {base : BaseType}
    (hcs : ∀ c ∈ cs, isBlank c = false) (h : next cs = .ok (base, rest)) :
    NoBlank base.name ∧ ∀ c ∈ rest, isBlank c = false := by
  unfold next at h
  split at h
  · cases h
  · next cs =>
    split at h <;> cases h
    next name _ hcut =>
      have hparts := append_of_cutFirst? hcut
      have hname : ∀ c ∈ name, isBlank c = false := by
        intro c hc
        apply hcs c
        rw [← hparts]
        simp [hc]
      refine ⟨?_, ?_⟩
      · intro c hc
        rw [BaseType.name, String.toList_ofList] at hc
        obtain ⟨d, hd, rfl⟩ := List.mem_map.1 hc
        unfold dotForSlash
        split
        · decide
        · exact hname d hd
      · intro c hc
        apply hcs c
        rw [← hparts]
        simp [hc]
  · split at h <;> cases h
    exact ⟨noBlank_name_primitive _, fun c hc => hcs c (List.mem_cons_of_mem _ hc)⟩

namespace TypeRef

theorem noBlank_of_next {cs rest : List Char} {type : TypeRef}
    (hcs : ∀ c ∈ cs, isBlank c = false) (h : next cs = .ok (type, rest)) :
    NoBlank type.name ∧ ∀ c ∈ rest, isBlank c = false := by
  obtain ⟨⟨base, behind⟩, hbase, heq⟩ := map_eq_ok_iff.1 h
  cases heq
  have hdrop : ∀ c ∈ cs.dropWhile (· == '['), isBlank c = false :=
    fun c hc => hcs c ((List.dropWhile_sublist _).subset hc)
  obtain ⟨hname, hrest⟩ := BaseType.noBlank_of_next hdrop hbase
  exact ⟨noBlank_withDimensions hname _, hrest⟩

theorem noBlank_of_readAll {cs : List Char} {types : List TypeRef}
    (hcs : ∀ c ∈ cs, isBlank c = false) (h : readAll cs = .ok types) :
    ∀ type ∈ types, NoBlank type.name := by
  fun_induction readAll cs generalizing types with
  | case1 =>
    cases h
    exact List.forall_mem_nil _
  | case2 c cs cause hnext => cases h
  | case3 c cs type rest hnext ih =>
    obtain ⟨others, hothers, rfl⟩ := map_eq_ok_iff.1 h
    obtain ⟨htype, hrest⟩ := noBlank_of_next hcs hnext
    exact List.forall_mem_cons.2 ⟨htype, ih hrest hothers⟩

theorem noBlank_of_readOne {cs : List Char} {type : TypeRef} (hcs : ∀ c ∈ cs, isBlank c = false)
    (h : readOne cs = .ok type) : NoBlank type.name := by
  unfold readOne at h
  split at h <;> cases h
  next hnext => exact (noBlank_of_next hcs hnext).1

end TypeRef

theorem Signature.noBlank_of_read {descriptor : String} {signature : Signature}
    (hdescriptor : NoBlank descriptor) (h : read descriptor = .ok signature) :
    (∀ param ∈ signature.params, NoBlank param) ∧ NoBlank signature.result := by
  unfold read at h
  split at h
  · next cs hcs =>
    split at h
    · cases h
    · next body rest hcut =>
      obtain ⟨params, hparams, h⟩ := bind_eq_ok_iff.1 h
      obtain ⟨result, hresult, h⟩ := bind_eq_ok_iff.1 h
      cases h
      have hparts := append_of_cutFirst? hcut
      have hchars : ∀ c ∈ body ++ [')'] ++ rest, isBlank c = false := by
        intro c hc
        apply hdescriptor c
        rw [hcs, ← hparts]
        exact List.mem_cons_of_mem _ hc
      rw [TypeRef.readList, String.toList_ofList] at hparams
      rw [TypeRef.read, String.toList_ofList] at hresult
      constructor
      · intro param hparam
        obtain ⟨type, htype, rfl⟩ := List.mem_map.1 hparam
        exact TypeRef.noBlank_of_readAll (fun c hc => hchars c (by simp [hc]))
          (mapError_eq_ok_iff.1 hparams) type htype
      · exact TypeRef.noBlank_of_readOne (fun c hc => hchars c (by simp [hc]))
          (mapError_eq_ok_iff.1 hresult)
  · cases h

/-! ## Types in another naming -/

namespace Registry

variable {registry : Registry} {name : String}

theorem noBlank_toHumanType (hclasses : ∀ cls ∈ registry.classes, ∀ human,
      cls.identity.human = some human → NoBlank human) (h : NoBlank name) :
    NoBlank (registry.toHumanType name) := by
  unfold toHumanType
  simp only
  split
  · next human hhuman =>
    obtain ⟨cls, hcls, hname⟩ := Option.bind_eq_some_iff.1 hhuman
    exact noBlank_withDimensions (hclasses cls (mem_of_communityClass? hcls) human hname) _
  · exact h

theorem noBlank_toWrittenType (hclasses : ∀ cls ∈ registry.classes,
      NoBlank (cls.identity.community.getD cls.identity.obfuscated)) (h : NoBlank name) :
    NoBlank (registry.toWrittenType name) := by
  unfold toWrittenType
  simp only
  split
  · next cls hcls => exact noBlank_withDimensions (hclasses cls (mem_of_humanClass? hcls)) _
  · exact h

end Registry

/-! ## Descriptors that are written -/

theorem noBlank_describeType {name : String} (h : NoBlank name) : NoBlank (describeType name) := by
  unfold describeType
  split
  · exact List.forall_mem_nil _
  · unfold NoBlank
    rw [TypeRef.descriptor, String.toList_ofList]
    apply TypeRef.forall_mem_descriptorChars
    · decide
    · decide
    · decide
    · intro primitive
      cases primitive <;> decide
    · intro c hc
      unfold slashForDot
      split
      · decide
      · exact noBlank_splitDimensions h c hc

theorem Signature.isWord_descriptor_of_noBlank {signature : Signature}
    (hparams : ∀ param ∈ signature.params, NoBlank param) (hresult : NoBlank signature.result) :
    IsWord signature.descriptor := by
  have hbody : NoBlank (String.join (signature.params.map describeType)) := by
    intro c hc
    rw [String.toList_join] at hc
    obtain ⟨text, htext, hc⟩ := List.mem_flatMap.1 hc
    obtain ⟨param, hparam, rfl⟩ := List.mem_map.1 htext
    exact noBlank_describeType (hparams param hparam) c hc
  have hchars : signature.descriptor.toList = '(' ::
      ((String.join (signature.params.map describeType)).toList ++
        ')' :: (describeType signature.result).toList) := by
    simp [descriptor]
  constructor
  · intro hempty
    rw [hempty] at hchars
    cases hchars
  · rw [hchars]
    refine List.forall_mem_cons.2 ⟨by decide, List.forall_mem_append.2 ⟨hbody, ?_⟩⟩
    exact List.forall_mem_cons.2 ⟨by decide, noBlank_describeType hresult⟩

theorem Registry.isWord_descriptor_toWrittenSignature {registry : Registry} {params : List String}
    {result : String} (hclasses : ∀ cls ∈ registry.classes,
      NoBlank (cls.identity.community.getD cls.identity.obfuscated))
    (hparams : ∀ param ∈ params, NoBlank param) (hresult : NoBlank result) :
    IsWord (registry.toWrittenSignature { params, result }).descriptor := by
  refine Signature.isWord_descriptor_of_noBlank ?_ (noBlank_toWrittenType hclasses hresult)
  intro written hwritten
  obtain ⟨param, hparam, rfl⟩ := List.mem_map.1 hwritten
  exact noBlank_toWrittenType hclasses (hparams param hparam)

end NameCarry
