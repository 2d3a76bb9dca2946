import NameCarry.Listing
import NameCarry.Proofs.Lookups

/-!
# Listings

A listing holds the lines that it is made of, each as often as it was given (`sortLines_perm`), in
increasing order (`pairwise_sortLines`). The lines of the class links are those of the linked
classes (`Registry.mem_classLinkLines_iff`), and the lines of the member links are those of the
linked members of linked classes (`Registry.mem_memberLinkLines_iff`).
-/

namespace NameCarry

/-- Sorting neither loses nor adds a line. -/
theorem sortLines_perm (lines : List String) : (sortLines lines).Perm lines :=
  List.mergeSort_perm _ _

/-- Sorted lines do not decrease. -/
theorem pairwise_sortLines (lines : List String) : (sortLines lines).Pairwise (· ≤ ·) := by
  have htrans : ∀ a b c : String, decide (a ≤ b) → decide (b ≤ c) → decide (a ≤ c) := by
    intro a b c hab hbc
    exact decide_eq_true (String.le_trans (of_decide_eq_true hab) (of_decide_eq_true hbc))
  have htotal : ∀ a b : String, (decide (a ≤ b) || decide (b ≤ a)) = true := by
    intro a b
    rw [Bool.or_eq_true, decide_eq_true_eq, decide_eq_true_eq]
    exact String.le_total a b
  have hsorted := List.pairwise_mergeSort htrans htotal lines
  exact hsorted.imp fun h => of_decide_eq_true h

/-! ## The lines of a listing -/

namespace Registry

theorem Indexed.memberLinkLines_eq {a b : Registry} (ha : a.Indexed) (hb : b.Indexed)
    (hclasses : a.classes = b.classes) : a.memberLinkLines = b.memberLinkLines := by
  have hwritten : a.toWrittenType = b.toWrittenType :=
    funext (ha.sameAnswers hb hclasses).writtenType
  have hmethod : a.methodLinkLine? = b.methodLinkLine? := by
    funext owner method
    simp only [methodLinkLine?, toWrittenSignature, hwritten]
  have hlinks : a.memberLinksOf = b.memberLinksOf := by
    funext cls
    simp only [memberLinksOf, hmethod]
  rw [memberLinkLines, memberLinkLines, hclasses, hlinks]

/-- The class links that are listed are those of the linked classes. -/
theorem mem_classLinkLines_iff {registry : Registry} {line : String} :
    line ∈ registry.classLinkLines ↔
      ∃ cls ∈ registry.classes, ∃ name, cls.identity.community = some name ∧
        " ".intercalate [cls.identity.obfuscated, name] = line := by
  unfold classLinkLines classLinkLine?
  rw [(sortLines_perm _).mem_iff, List.mem_filterMap]
  simp only [Array.mem_toList_iff, Option.map_eq_some_iff]
  rfl

/-- The line that is written for a member, with the community name that it gives. -/
inductive WrittenAt (registry : Registry) : MemberSite → String → String → Prop where
  /-- The line of a field. -/
  | field {owner number : Nat} {cls : ClassDecl} {key : String} {id : Identifier} {name : String}
      (hcls : registry.classes[owner]? = some cls) (hkey : cls.identity.community = some key)
      (hid : cls.fields[number]? = some id) (hname : id.community = some name) :
      WrittenAt registry (.field owner number) name (" ".intercalate [key, id.obfuscated, name])
  /-- The line of a method. -/
  | method {owner number : Nat} {cls : ClassDecl} {key : String} {id : Identifier} {name : String}
      (hcls : registry.classes[owner]? = some cls) (hkey : cls.identity.community = some key)
      (hid : cls.methods[number]? = some id) (hname : id.community = some name) :
      WrittenAt registry (.method owner number) name (" ".intercalate [key, id.obfuscated,
        (registry.toWrittenSignature
          { params := id.params, result := id.type.getD "" }).descriptor, name])

/-- The member links that are listed are those that are written for the members. -/
theorem mem_memberLinkLines_iff {registry : Registry} {line : String} :
    line ∈ registry.memberLinkLines ↔ ∃ site name, registry.WrittenAt site name line := by
  unfold memberLinkLines
  rw [(sortLines_perm _).mem_iff, List.mem_flatMap]
  constructor
  · rintro ⟨cls, hcls, hline⟩
    obtain ⟨owner, howner⟩ := Array.mem_iff_getElem?.1 (Array.mem_toList_iff.1 hcls)
    unfold memberLinksOf at hline
    cases hkey : cls.identity.community with
    | none => simp [hkey] at hline
    | some key =>
      simp only [hkey, List.mem_append, List.mem_filterMap] at hline
      rcases hline with ⟨id, hmem, hline⟩ | ⟨id, hmem, hline⟩
      · obtain ⟨number, hid⟩ := List.mem_iff_getElem?.1 hmem
        obtain ⟨name, hname, rfl⟩ := Option.map_eq_some_iff.1 hline
        exact ⟨_, name, .method howner hkey hid hname⟩
      · obtain ⟨number, hid⟩ := List.mem_iff_getElem?.1 hmem
        obtain ⟨name, hname, rfl⟩ := Option.map_eq_some_iff.1 hline
        exact ⟨_, name, .field howner hkey hid hname⟩
  · rintro ⟨site, name, hwritten⟩
    cases hwritten with
    | field howner hkey hid hname =>
      refine ⟨_, Array.mem_toList_iff.2 (Array.mem_of_getElem? howner), ?_⟩
      simp only [memberLinksOf, hkey, List.mem_append, List.mem_filterMap]
      exact .inr ⟨_, List.mem_of_getElem? hid, Option.map_eq_some_iff.2 ⟨name, hname, rfl⟩⟩
    | method howner hkey hid hname =>
      refine ⟨_, Array.mem_toList_iff.2 (Array.mem_of_getElem? howner), ?_⟩
      simp only [memberLinksOf, hkey, List.mem_append, List.mem_filterMap]
      exact .inl ⟨_, List.mem_of_getElem? hid, Option.map_eq_some_iff.2 ⟨name, hname, rfl⟩⟩

end Registry

end NameCarry
