import Mathlib.Data.List.Nodup
import NameCarry.Proofs.Links
import NameCarry.Proofs.Tables

/-!
# Lookups are scans

Whatever links are carried out on a registry, successfully or not, a lookup by any of the three
names finds the class that a scan of the classes in their order finds first
(`Registry.lookups_eq_scan_of_links`). The tables are thus never stale, and a registry that is
built anew from the classes gives the same answers.

The invariant is `Registry.Indexed`: each of the three tables is right for the classes. Every
link that is carried out keeps it, so a run of links does (`LinkOp.run_induction`).
-/

namespace NameCarry

/-! ## Searching where one element at most is meant -/

section Unique

variable {α κ : Type}

/-- If a test holds of one element at most, a search finds the one that it holds of. -/
theorem find?_eq_some_iff_of_unique {p : α → Bool} {xs : List α} {x : α}
    (hunique : ∀ a ∈ xs, ∀ b ∈ xs, p a = true → p b = true → a = b) :
    xs.find? p = some x ↔ x ∈ xs ∧ p x = true := by
  constructor
  · intro hfind
    exact ⟨List.mem_of_find?_eq_some hfind, List.find?_some hfind⟩
  · rintro ⟨hx, hpx⟩
    cases hfind : xs.find? p with
    | none => exact absurd hpx (List.find?_eq_none.1 hfind x hx)
    | some y =>
      rw [hunique y (List.mem_of_find?_eq_some hfind) x hx (List.find?_some hfind) hpx]

/-- An element is found by its key if no other one has the key. -/
theorem find?_key_eq_some_iff [BEq κ] [LawfulBEq κ] {key : α → κ} {xs : Array α}
    (hnodup : (xs.toList.map key).Nodup) {k : κ} {x : α} :
    xs.find? (key · == k) = some x ↔ x ∈ xs ∧ key x = k := by
  rw [← Array.find?_toList, find?_eq_some_iff_of_unique, Array.mem_toList_iff, beq_iff_eq]
  intro a ha b hb hka hkb
  exact List.inj_on_of_nodup_map hnodup ha hb ((eq_of_beq hka).trans (eq_of_beq hkb).symm)

end Unique

namespace Registry

/-- The three tables are right for the classes. -/
structure Indexed (registry : Registry) : Prop where
  /-- The table of obfuscated names. -/
  obfuscated :
    registry.byObfuscated.Right (fun cls => some cls.identity.obfuscated) registry.classes
  /-- The table of human names. -/
  human : registry.byHuman.Right (fun cls => cls.identity.human) registry.classes
  /-- The table of dotted community names. -/
  community : registry.byCommunity.Right ClassDecl.communityKey registry.classes

theorem indexed_ofClasses (classes : Array ClassDecl) : Indexed (ofClasses classes) where
  obfuscated := NameTable.right_ofClasses _ _
  human := NameTable.right_ofClasses _ _
  community := NameTable.right_ofClasses _ _

variable {registry linked : Registry}

/-! ## Lookups in an indexed registry -/

theorem Indexed.byObfuscated (h : registry.Indexed) (name : String) :
    registry.byObfuscated[name]? =
      registry.classes.findIdx? (·.identity.obfuscated == name) := by
  rw [h.obfuscated name]
  rfl

theorem Indexed.byHuman (h : registry.Indexed) (name : String) :
    registry.byHuman[name]? = registry.classes.findIdx? (·.identity.human == some name) :=
  h.human name

theorem Indexed.communityNumber? (h : registry.Indexed) (name : String) :
    registry.communityNumber? name =
      registry.classes.findIdx? (·.communityKey == some (Text.dotted name)) :=
  h.community (Text.dotted name)

theorem Indexed.obfuscatedClass? (h : registry.Indexed) (name : String) :
    registry.obfuscatedClass? name =
      registry.classes.find? (·.identity.obfuscated == name) := by
  rw [Registry.obfuscatedClass?, h.byObfuscated, Array.find?_eq_bind_findIdx?_getElem?]

theorem Indexed.humanClass? (h : registry.Indexed) (name : String) :
    registry.humanClass? name = registry.classes.find? (·.identity.human == some name) := by
  rw [Registry.humanClass?, h.byHuman, Array.find?_eq_bind_findIdx?_getElem?]

theorem Indexed.communityClass? (h : registry.Indexed) (name : String) :
    registry.communityClass? name =
      registry.classes.find? (·.communityKey == some (Text.dotted name)) := by
  rw [Registry.communityClass?, h.communityNumber?, Array.find?_eq_bind_findIdx?_getElem?]

/-- If obfuscated names tell the classes apart, each class is found by its own. -/
theorem Indexed.obfuscatedClass?_eq_some_iff (h : registry.Indexed)
    (hnodup : (registry.classes.toList.map (·.identity.obfuscated)).Nodup) {name : String}
    {cls : ClassDecl} :
    registry.obfuscatedClass? name = some cls ↔
      cls ∈ registry.classes ∧ cls.identity.obfuscated = name := by
  rw [h.obfuscatedClass?, find?_key_eq_some_iff hnodup]

/-- If human names tell the classes apart, each class is found by its own. -/
theorem Indexed.humanClass?_eq_some_iff (h : registry.Indexed)
    (hnodup : (registry.classes.toList.map (·.identity.human)).Nodup) {name : String}
    {cls : ClassDecl} :
    registry.humanClass? name = some cls ↔
      cls ∈ registry.classes ∧ cls.identity.human = some name := by
  rw [h.humanClass?, find?_key_eq_some_iff hnodup]

/-! ## Registries that differ in what their classes hold -/

/-- The second registry has the classes of the first one, each with some change, and finds them
under the same community names. -/
structure Changed (change : Nat → ClassDecl → ClassDecl) (a b : Registry) : Prop where
  classes : ∀ number, b.classes[number]? = a.classes[number]?.map (change number)
  communityNumber? : ∀ name, b.communityNumber? name = a.communityNumber? name

section Changes

variable {change : Nat → ClassDecl → ClassDecl} {a b : Registry} (h : Changed change a b)

include h

theorem Changed.communityClass? (name : String) :
    b.communityClass? name =
      (a.communityNumber? name).bind fun number => a.classes[number]?.map (change number) := by
  rw [Registry.communityClass?, h.communityNumber?]
  congr 1
  funext number
  exact h.classes number

theorem Changed.ownerOf (owner : String) :
    b.ownerOf owner = (a.ownerOf owner).map fun (number, cls) => (number, change number cls) := by
  rw [Registry.ownerOf, Registry.ownerOf, h.communityNumber?, h.communityClass?,
    Registry.communityClass?]
  cases a.communityNumber? owner with
  | none => rfl
  | some number =>
    simp only [Option.bind_some]
    cases a.classes[number]? <;> rfl

/-- If no human name changes, types have the same human names. -/
theorem Changed.toHumanSignature
    (hhuman : ∀ number cls, (change number cls).identity.human = cls.identity.human)
    (signature : Signature) : b.toHumanSignature signature = a.toHumanSignature signature := by
  have hclass : ∀ base, (b.communityClass? base).bind (·.identity.human) =
      (a.communityClass? base).bind (·.identity.human) := by
    intro base
    rw [h.communityClass?, Registry.communityClass?]
    cases a.communityNumber? base with
    | none => rfl
    | some number =>
      simp only [Option.bind_some]
      cases a.classes[number]? with
      | none => rfl
      | some cls => exact hhuman number cls
  have htype : b.toHumanType = a.toHumanType := by
    funext name
    simp only [toHumanType, hclass]
  rw [Registry.toHumanSignature, Registry.toHumanSignature, htype]

end Changes

/-! ## Operations keep the tables right -/

theorem Indexed.nameClass (h : registry.Indexed) {number : Nat}
    (hnumber : number < registry.classes.size) (community : String) :
    (registry.nameClass number community).Indexed where
  obfuscated := h.obfuscated.of_modify number (·.link community) fun _ => rfl
  human := h.human.of_modify number (·.link community) fun _ => rfl
  community := by
    have hkey : (registry.classes[number].link community).communityKey =
        some (Text.dotted community) := rfl
    have hright := h.community.rename hnumber (·.link community) hkey
    have hformer : registry.classes[number]?.bind ClassDecl.communityKey =
        registry.classes[number].communityKey := by
      rw [Array.getElem?_eq_getElem hnumber, Option.bind_some]
    rw [← hformer] at hright
    exact hright

theorem Indexed.linkClass (h : registry.Indexed) {obfuscated community : String}
    (hlink : registry.linkClass obfuscated community = .ok linked) : linked.Indexed := by
  obtain ⟨number, hfind, rfl⟩ := linkClass_eq_ok_iff.1 hlink
  rw [h.byObfuscated] at hfind
  obtain ⟨hnumber, -⟩ := Array.findIdx?_eq_some_iff_getElem.1 hfind
  exact h.nameClass hnumber community

/-- Naming a member keeps the tables right, as they hold names of classes only. -/
theorem Indexed.nameMember (h : registry.Indexed) (site : MemberSite) (community : String) :
    (registry.nameMember site community).Indexed := by
  rw [nameMember_eq_modify]
  exact {
    obfuscated := h.obfuscated.of_modify _ _ fun cls => by simp
    human := h.human.of_modify _ _ fun cls => by simp
    community := h.community.of_modify _ _ fun cls => by simp [ClassDecl.communityKey] }

theorem Indexed.linkMember (h : registry.Indexed) {link : MemberLink}
    (hlink : registry.linkMember link = .ok linked) : linked.Indexed := by
  obtain ⟨site, -, rfl⟩ := linkMember_eq_ok_iff.1 hlink
  exact h.nameMember site link.community

end Registry

/-! ## Runs of links -/

/-- An operation that links classes or members of a registry. -/
inductive LinkOp where
  /-- Links the class with the given obfuscated name. -/
  | cls (obfuscated community : String)
  /-- Reads and carries out a class link. -/
  | classLine (line : String)
  /-- Links each of the given classes to its own name. -/
  | anchors (names : List String)
  /-- Reads and carries out a member link. -/
  | memberLine (line : String)
  deriving DecidableEq, Repr

namespace LinkOp

/-- The registry that an operation leaves, carried out or not. -/
def apply (registry : Registry) : LinkOp → Registry
  | cls obfuscated community => ((Attempt.linkClass obfuscated community).on registry).value.2
  | classLine line => ((Attempt.linkClassLine line).on registry).value.2
  | anchors names => (registry.linkAnchors names).value.1
  | memberLine line => ((Attempt.linkMemberLine line).on registry).value.2

/-- The registry that one operation after the other leads to. -/
def run (registry : Registry) (ops : List LinkOp) : Registry :=
  ops.foldl apply registry

theorem apply_cls (registry : Registry) (obfuscated community : String) :
    (cls obfuscated community).apply registry =
      registry.orStay (registry.linkClass obfuscated community) :=
  congrArg Prod.snd (registry.value_on_linkClass obfuscated community)

theorem apply_classLine (registry : Registry) (line : String) :
    (classLine line).apply registry = registry.orStay (registry.linkClassLine line) :=
  congrArg Prod.snd (registry.value_on_linkClassLine line)

theorem apply_memberLine (registry : Registry) (line : String) :
    (memberLine line).apply registry = registry.orStay (registry.linkMemberLine line) :=
  congrArg Prod.snd (registry.value_on_linkMemberLine line)

/-! ### What links keep -/

section Induction

variable {motive : Registry → Prop}
  (hclass : ∀ {registry linked : Registry}, motive registry → ∀ {obfuscated community : String},
    registry.linkClass obfuscated community = .ok linked → motive linked)
  (hmember : ∀ {registry linked : Registry}, motive registry → ∀ {link : MemberLink},
    registry.linkMember link = .ok linked → motive linked)

include hclass in
theorem linkAnchors_induction {registry : Registry} (h : motive registry) (names : List String) :
    motive (registry.linkAnchors names).value.1 := by
  rw [Registry.value_linkAnchors_fst]
  induction names generalizing registry with
  | nil => exact h
  | cons name names ih =>
    rw [List.foldl_cons]
    exact ih (Registry.orStay_induction h fun _ hlink => hclass h hlink)

include hclass hmember

/-- What holds of a registry holds after an operation if it holds after each link of a class or of a
member that is carried out. -/
theorem apply_induction {registry : Registry} (h : motive registry) (op : LinkOp) :
    motive (op.apply registry) := by
  cases op with
  | cls obfuscated community =>
    rw [apply_cls]
    exact Registry.orStay_induction h fun _ hlink => hclass h hlink
  | classLine line =>
    rw [apply_classLine]
    refine Registry.orStay_induction h fun linked hlink => ?_
    obtain ⟨link, -, hlinked⟩ := Registry.linkClassLine_eq_ok_iff.1 hlink
    exact hclass h hlinked
  | anchors names => exact linkAnchors_induction hclass h names
  | memberLine line =>
    rw [apply_memberLine]
    refine Registry.orStay_induction h fun linked hlink => ?_
    obtain ⟨link, -, hlinked⟩ := Registry.linkMemberLine_eq_ok_iff.1 hlink
    exact hmember h hlinked

/-- The same for a run of operations. -/
theorem run_induction {registry : Registry} (h : motive registry) (ops : List LinkOp) :
    motive (run registry ops) := by
  unfold run
  induction ops generalizing registry with
  | nil => exact h
  | cons op ops ih => exact ih (apply_induction hclass hmember h op)

end Induction

end LinkOp

namespace Registry

variable {registry : Registry}

theorem Indexed.run (h : registry.Indexed) (ops : List LinkOp) :
    (LinkOp.run registry ops).Indexed :=
  LinkOp.run_induction (motive := Indexed) Indexed.linkClass Indexed.linkMember h ops

/-- The lookups of a registry answer what a scan of its classes finds first. -/
structure AnswersByScan (registry : Registry) : Prop where
  /-- By obfuscated name. -/
  obfuscated : ∀ name, registry.obfuscatedClass? name =
    registry.classes.find? (·.identity.obfuscated == name)
  /-- By human name. -/
  human : ∀ name, registry.humanClass? name =
    registry.classes.find? (·.identity.human == some name)
  /-- By community name, in its dotted form. -/
  community : ∀ name, registry.communityClass? name =
    registry.classes.find? (·.communityKey == some (Text.dotted name))
  /-- By community name, for naming a member in the class. -/
  owner : ∀ name number cls, registry.ownerOf name = .ok (number, cls) ↔
    registry.classes.findIdx? (·.communityKey == some (Text.dotted name)) = some number ∧
      registry.classes[number]? = some cls
  /-- No class is found by an obfuscated name only if none bears it. -/
  obfuscated_none : ∀ name, registry.obfuscatedClass? name = none ↔
    ∀ cls ∈ registry.classes, cls.identity.obfuscated ≠ name
  /-- No class is found by a human name only if none bears it. -/
  human_none : ∀ name, registry.humanClass? name = none ↔
    ∀ cls ∈ registry.classes, cls.identity.human ≠ some name
  /-- No class is found by a community name only if none bears it, in its dotted form. -/
  community_none : ∀ name, registry.communityClass? name = none ↔
    ∀ cls ∈ registry.classes, cls.communityKey ≠ some (Text.dotted name)

theorem Indexed.answersByScan (h : registry.Indexed) : registry.AnswersByScan where
  obfuscated := h.obfuscatedClass?
  human := h.humanClass?
  community := h.communityClass?
  owner name number cls := by rw [ownerOf_eq_ok_iff, h.communityNumber?]
  obfuscated_none name := by simp [h.obfuscatedClass?]
  human_none name := by simp [h.humanClass?]
  community_none name := by simp [h.communityClass?]

/-- Two registries give the same answers to every lookup, and rename every type alike. -/
structure SameAnswers (a b : Registry) : Prop where
  /-- By obfuscated name. -/
  obfuscated : ∀ name, a.obfuscatedClass? name = b.obfuscatedClass? name
  /-- By human name. -/
  human : ∀ name, a.humanClass? name = b.humanClass? name
  /-- By community name. -/
  community : ∀ name, a.communityClass? name = b.communityClass? name
  /-- By community name, for naming a member in the class. -/
  owner : ∀ name, a.ownerOf name = b.ownerOf name
  /-- Types that are given by community names. -/
  humanType : ∀ name, a.toHumanType name = b.toHumanType name
  /-- Types that are given by human names. -/
  writtenType : ∀ name, a.toWrittenType name = b.toWrittenType name

/-- Two registries hold the same classes and give the same answers. -/
structure Agrees (a b : Registry) : Prop where
  /-- The classes are the same, with all their names. -/
  classes : a.classes = b.classes
  /-- The lookups lead to the same classes. -/
  answers : SameAnswers a b

theorem Indexed.sameAnswers {a b : Registry} (ha : a.Indexed) (hb : b.Indexed)
    (hclasses : a.classes = b.classes) : SameAnswers a b := by
  have hhuman : ∀ name, a.humanClass? name = b.humanClass? name := by
    intro name
    rw [ha.humanClass?, hb.humanClass?, hclasses]
  have hcommunity : ∀ name, a.communityClass? name = b.communityClass? name := by
    intro name
    rw [ha.communityClass?, hb.communityClass?, hclasses]
  have hnumber : ∀ name, a.communityNumber? name = b.communityNumber? name := by
    intro name
    rw [ha.communityNumber?, hb.communityNumber?, hclasses]
  exact {
    obfuscated := fun name => by rw [ha.obfuscatedClass?, hb.obfuscatedClass?, hclasses]
    human := hhuman
    community := hcommunity
    owner := fun name => by rw [ownerOf, ownerOf, hcommunity, hnumber]
    humanType := fun name => by simp only [toHumanType, hcommunity]
    writtenType := fun name => by simp only [toWrittenType, hhuman] }

/-- After any run of links on the registry of any classes, every lookup answers what a scan of the
classes finds first, and a registry that is built anew from the classes answers alike. -/
theorem lookups_eq_scan_of_links (classes : Array ClassDecl) (ops : List LinkOp) :
    AnswersByScan (LinkOp.run (ofClasses classes) ops) ∧
      SameAnswers (ofClasses (LinkOp.run (ofClasses classes) ops).classes)
        (LinkOp.run (ofClasses classes) ops) := by
  have hindexed : (LinkOp.run (ofClasses classes) ops).Indexed :=
    (indexed_ofClasses classes).run ops
  exact ⟨hindexed.answersByScan, (indexed_ofClasses _).sameAnswers hindexed rfl⟩

end Registry

end NameCarry
