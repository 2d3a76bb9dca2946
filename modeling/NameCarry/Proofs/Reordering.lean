import Mathlib.Data.List.Forall2
import Mathlib.Data.List.Nodup
import NameCarry.Proofs.Annotation
import NameCarry.Proofs.Listings

/-!
# Builds in another order

The classes of a build may stand in another order, and so may the fields and the methods of each
class. What is listed of a build and what is counted does not change by that, as long as every human
name leads to the same class (`Registry.Alike`). Then types are written alike, and the listings hold
the same lines, which are sorted in the end (`Registry.Alike.memberLinkLines`).
-/

namespace NameCarry

/-! ## Lists in another order -/

/-- A list in another order, with related elements in place of its own. -/
def Reordered {α β : Type} (R : α → β → Prop) (xs : List α) (ys : List β) : Prop :=
  ∃ mid, xs.Perm mid ∧ List.Forall₂ R mid ys

namespace Reordered

variable {α β γ δ : Type} {R : α → β → Prop} {S : γ → δ → Prop} {xs : List α} {ys : List β}

theorem map (h : Reordered R xs ys) {f : α → γ} {g : β → δ} (hfg : ∀ a b, R a b → S (f a) (g b)) :
    Reordered S (xs.map f) (ys.map g) := by
  obtain ⟨mid, hperm, hrel⟩ := h
  exact ⟨mid.map f, hperm.map f, List.rel_map (fun a b hab => hfg a b hab) hrel⟩

theorem filterMap (h : Reordered R xs ys) {f : α → Option γ} {g : β → Option δ}
    (hfg : ∀ a b, R a b → Option.Rel S (f a) (g b)) :
    Reordered S (xs.filterMap f) (ys.filterMap g) := by
  obtain ⟨mid, hperm, hrel⟩ := h
  exact ⟨mid.filterMap f, hperm.filterMap f, List.rel_filterMap (fun a b hab => hfg a b hab) hrel⟩

/-- If related elements have the same value, the values are the same in another order. -/
theorem map_perm (h : Reordered R xs ys) {f : α → γ} {g : β → γ}
    (hfg : ∀ a b, R a b → f a = g b) : (xs.map f).Perm (ys.map g) := by
  obtain ⟨mid, hperm, hsame⟩ := h.map hfg
  rw [List.forall₂_eq_eq_eq] at hsame
  exact hsame ▸ hperm

/-- If related elements have the same values up to their order, so have the lists. -/
theorem flatMap_perm (h : Reordered R xs ys) {f : α → List γ} {g : β → List γ}
    (hfg : ∀ a b, R a b → (f a).Perm (g b)) : (xs.flatMap f).Perm (ys.flatMap g) := by
  obtain ⟨mid, hperm, hrel⟩ := h
  refine (hperm.flatMap_right f).trans ?_
  clear hperm
  induction hrel with
  | nil => exact .refl _
  | cons hab _ ih =>
    rw [List.flatMap_cons, List.flatMap_cons]
    exact (hfg _ _ hab).append ih

theorem sum_eq (h : Reordered R xs ys) {f : α → Nat} {g : β → Nat}
    (hfg : ∀ a b, R a b → f a = g b) : (xs.map f).sum = (ys.map g).sum :=
  (h.map_perm hfg).sum_nat

end Reordered

/-- Sorting forgets the order. -/
theorem sortLines_eq_of_perm {lines others : List String} (h : lines.Perm others) :
    sortLines lines = sortLines others := by
  have hperm : (sortLines lines).Perm (sortLines others) :=
    (sortLines_perm lines).trans (h.trans (sortLines_perm others).symm)
  exact List.Perm.eq_of_pairwise (fun _ _ _ _ => String.le_antisymm) (pairwise_sortLines lines)
    (pairwise_sortLines others) hperm

/-- What is searched for is found in any order, if there is only one of it. -/
theorem find?_eq_of_perm {α : Type} {p : α → Bool} {xs ys : List α} (h : xs.Perm ys)
    (hunique : ∀ x ∈ xs, ∀ y ∈ xs, p x → p y → x = y) : xs.find? p = ys.find? p := by
  have hunique' : ∀ x ∈ ys, ∀ y ∈ ys, p x → p y → x = y := fun x hx y hy =>
    hunique x (h.mem_iff.2 hx) y (h.mem_iff.2 hy)
  ext x
  rw [find?_eq_some_iff_of_unique hunique, find?_eq_some_iff_of_unique hunique', h.mem_iff]

/-! ## Classes with their members in another order -/

/-- Two classes have the same members, up to their order. -/
structure ClassDecl.Shuffled (cls other : ClassDecl) : Prop where
  /-- They are called the same. -/
  identity : cls.identity = other.identity
  /-- They have the same fields. -/
  fields : cls.fields.Perm other.fields
  /-- They have the same methods. -/
  methods : cls.methods.Perm other.methods

namespace ClassDecl.Shuffled

variable {cls other : ClassDecl} (h : cls.Shuffled other)

include h

theorem memberCount : cls.memberCount = other.memberCount := by
  rw [ClassDecl.memberCount, ClassDecl.memberCount, h.fields.length_eq, h.methods.length_eq]

theorem linkedMembers : cls.linkedMembers = other.linkedMembers := by
  rw [ClassDecl.linkedMembers, ClassDecl.linkedMembers, h.fields.countP_eq, h.methods.countP_eq]

theorem retypedIn (old : Array ClassDecl) : cls.retypedIn old = other.retypedIn old := by
  rw [ClassDecl.retypedIn, ClassDecl.retypedIn, h.identity]
  exact (h.fields.map _).sum_nat

/-- Names are carried onto each member for itself. -/
theorem carryDecl (old : Registry) : (old.carryDecl cls).Shuffled (old.carryDecl other) where
  identity := by rw [Registry.carryDecl, Registry.carryDecl, h.identity]
  fields := by
    rw [Registry.carryDecl, Registry.carryDecl, h.identity]
    exact h.fields.map _
  methods := by
    rw [Registry.carryDecl, Registry.carryDecl, h.identity]
    exact h.methods.map _

end ClassDecl.Shuffled

/-! ## What is counted -/

theorem memberCount_eq_sum (classes : Array ClassDecl) :
    memberCount classes = (classes.toList.map (·.memberCount)).sum := by
  rw [memberCount, ← Array.foldl_toList, List.sum_eq_foldl, List.foldl_map]

section Counts

variable {classes others : Array ClassDecl}
  (h : Reordered ClassDecl.Shuffled classes.toList others.toList)

include h

theorem size_eq_of_reordered : classes.size = others.size := by
  have hlength := (h.map_perm (f := fun _ => ()) (g := fun _ => ()) fun _ _ _ => rfl).length_eq
  simpa using hlength

theorem memberCount_eq_of_reordered : memberCount classes = memberCount others := by
  rw [memberCount_eq_sum, memberCount_eq_sum]
  exact h.sum_eq fun _ _ hcls => hcls.memberCount

theorem linkedClassCount_eq_of_reordered : linkedClassCount classes = linkedClassCount others := by
  have hlinked := h.map_perm (f := (·.identity.isLinked)) (g := (·.identity.isLinked))
    fun _ _ hcls => by rw [hcls.identity]
  have hcount := hlinked.countP_eq id
  rw [List.countP_map, List.countP_map] at hcount
  rw [linkedClassCount, linkedClassCount, ← Array.countP_toList, ← Array.countP_toList]
  exact hcount

theorem linkedMemberCount_eq_of_reordered :
    linkedMemberCount classes = linkedMemberCount others :=
  h.sum_eq fun _ _ hcls => hcls.linkedMembers

end Counts

/-! ## Registries -/

namespace Registry

/-- Two registries have the same classes and members, up to their order, and each human name leads
to the same class. -/
structure Alike (a b : Registry) : Prop where
  /-- They have the same classes. -/
  classes : Reordered ClassDecl.Shuffled a.classes.toList b.classes.toList
  /-- They find the same class by a human name. -/
  identity : ∀ name, (a.humanClass? name).map (·.identity) = (b.humanClass? name).map (·.identity)

/-- If no two classes share a human name, the order of the classes plays no part. -/
theorem Alike.of_reordered {a b : Registry} (ha : a.Indexed) (hb : b.Indexed)
    (hclasses : Reordered ClassDecl.Shuffled a.classes.toList b.classes.toList)
    (hnodup : (a.classes.toList.map (·.identity.human)).Nodup) : a.Alike b where
  classes := hclasses
  identity := by
    intro name
    -- A lookup is a search among the identifiers of the classes.
    have hsearch : ∀ registry : Registry, registry.Indexed →
        (registry.humanClass? name).map (·.identity) =
          (registry.classes.toList.map (·.identity)).find? (·.human == some name) := by
      intro registry hregistry
      rw [hregistry.humanClass?, List.find?_map, ← Array.find?_toList]
      rfl
    rw [hsearch a ha, hsearch b hb]
    apply find?_eq_of_perm (hclasses.map_perm fun _ _ hcls => hcls.identity)
    intro x hx y hy hxname hyname
    obtain ⟨cls, hcls, rfl⟩ := List.mem_map.1 hx
    obtain ⟨other, hother, rfl⟩ := List.mem_map.1 hy
    have hhuman : cls.identity.human = other.identity.human :=
      (eq_of_beq hxname).trans (eq_of_beq hyname).symm
    rw [List.inj_on_of_nodup_map hnodup hcls hother hhuman]

namespace Alike

variable {a b : Registry} (h : a.Alike b)

include h

theorem toWrittenType : a.toWrittenType = b.toWrittenType := by
  -- Only the names of the class that is found are used.
  have hname : ∀ (registry : Registry) (name : String), registry.toWrittenType name =
      match (registry.humanClass? (splitDimensions name).1).map (·.identity) with
      | some id => withDimensions (id.community.getD id.obfuscated) (splitDimensions name).2
      | none => name := by
    intro registry name
    unfold Registry.toWrittenType
    obtain ⟨base, depth⟩ := splitDimensions name
    cases hfind : registry.humanClass? base <;> simp [hfind]
  funext name
  rw [hname, hname, h.identity]

theorem classLinkLines : a.classLinkLines = b.classLinkLines := by
  rw [Registry.classLinkLines, Registry.classLinkLines, List.filterMap_eq_flatMap_toList,
    List.filterMap_eq_flatMap_toList]
  apply sortLines_eq_of_perm
  apply h.classes.flatMap_perm
  intro cls other hcls
  rw [classLinkLine?, classLinkLine?, hcls.identity]

theorem memberLinksOf {cls other : ClassDecl} (hcls : cls.Shuffled other) :
    (a.memberLinksOf cls).Perm (b.memberLinksOf other) := by
  have hmethod : a.methodLinkLine? = b.methodLinkLine? := by
    funext owner method
    simp only [methodLinkLine?, toWrittenSignature, h.toWrittenType]
  unfold Registry.memberLinksOf
  rw [hmethod, hcls.identity]
  cases other.identity.community with
  | none => exact .refl _
  | some owner => exact (hcls.methods.filterMap _).append (hcls.fields.filterMap _)

theorem memberLinkLines : a.memberLinkLines = b.memberLinkLines :=
  sortLines_eq_of_perm (h.classes.flatMap_perm fun _ _ hcls => h.memberLinksOf hcls)

/-- An exclusion list is taken to both builds alike. -/
theorem ofText (old : Registry) (text : String) :
    Exclusion.ofText old a text = Exclusion.ofText old b text := by
  have hname : ∀ name, (a.humanClass? name).map (·.identity.obfuscated) =
      (b.humanClass? name).map (·.identity.obfuscated) := by
    intro name
    have hsame := congrArg (Option.map (·.obfuscated)) (h.identity name)
    rwa [Option.map_map, Option.map_map] at hsame
  have hline : Exclusion.ofLine old a = Exclusion.ofLine old b := by
    funext line
    simp only [Exclusion.ofLine, renamedExclusion?, hname]
  rw [Exclusion.ofText, Exclusion.ofText, hline]

end Alike

end Registry

end NameCarry
