import Mathlib.Logic.Equiv.List
import NameCarry.Carry
import NameCarry.Proofs.Cuts
import NameCarry.Proofs.Lookups

/-!
# Obfuscated names are nothing but keys

The obfuscated names of a build find the classes and members that links are for, and do nothing
else. If the classes and members of a build get new obfuscated names, and the links use the new
ones, then the same links are carried out, the others are refused for faults of the same kinds, and
the names that are carried onto a new build stay what they were (`Registry.run_renamed`).

The argument is a simulation between the run with the old names and the one with the new ones. Its
invariant is `Renaming.Corresponds`: the classes are the same up to the new names, and the tables on
both sides are right for them.
-/

namespace NameCarry

/-! ## Changes and faults under a mapping -/

section Mapping

variable {ε δ α β : Type}

/-- A change of one element and a change of all can be made in either order. -/
theorem modify_map {f : α → α} {g : α → β} {k : β → β} (hcomm : ∀ x, k (g x) = g (f x))
    (xs : List α) (number : Nat) : (xs.map g).modify number k = (xs.modify number f).map g := by
  apply List.ext_getElem (by simp)
  intro place h₁ h₂
  simp only [List.getElem_modify, List.getElem_map]
  split
  · exact hcomm _
  · rfl

theorem modify_map_array {f : α → α} {g : α → β} {k : β → β} (hcomm : ∀ x, k (g x) = g (f x))
    (xs : Array α) (number : Nat) : (xs.map g).modify number k = (xs.modify number f).map g := by
  apply Array.toList_inj.1
  simpa using modify_map hcomm xs.toList number

theorem mapError_bind_pure {x y : Except ε α} {kind : ε → δ} (g : α → β)
    (h : x.mapError kind = y.mapError kind) :
    (x >>= fun a => pure (g a)).mapError kind = (y >>= fun a => pure (g a)).mapError kind := by
  cases x with
  | error fault =>
    cases y with
    | error fault' => simpa [bind, Except.bind] using h
    | ok b => cases h
  | ok a =>
    cases y with
    | error fault' => cases h
    | ok b =>
      cases h
      rfl

end Mapping

/-! ## New names -/

/-- New obfuscated names for the classes and the members of a build. No two names become one, and
the name of a member is a word, so that it keeps its place on a line. -/
structure Renaming where
  cls : String → String
  member : String → String
  cls_injective : Function.Injective cls
  member_injective : Function.Injective member
  isWord_member : ∀ name, Text.IsWord (member name)

/-- Texts can be counted, so each can have a word of its own, which is as long as its number. -/
instance : Nonempty Renaming := by
  have hcount : Function.Injective fun name : String =>
      Encodable.encode (name.toList.map Char.toNat) := by
    intro name other h
    have hcodes := List.map_injective_iff.2 (fun _ _ => Char.toNat_inj.1)
      (Encodable.encode_injective h)
    exact String.toList_inj.1 hcodes
  refine ⟨⟨id, fun name =>
    String.ofList (List.replicate (Encodable.encode (name.toList.map Char.toNat) + 1) 'x'),
    Function.injective_id, ?_, ?_⟩⟩
  · intro name other h
    have hlength := congrArg (fun word : String => word.toList.length) h
    simp only [String.toList_ofList, List.length_replicate, Nat.add_right_cancel_iff] at hlength
    exact hcount hlength
  · intro name
    constructor
    · simp
    · intro c hc
      rw [String.toList_ofList] at hc
      rw [List.eq_of_mem_replicate hc]
      decide

def Identifier.rename (f : String → String) (id : Identifier) : Identifier :=
  { id with obfuscated := f id.obfuscated }

namespace Renaming

variable (ren : Renaming)

def decl (cls : ClassDecl) : ClassDecl where
  identity := cls.identity.rename ren.cls
  fields := cls.fields.map (Identifier.rename ren.member)
  methods := cls.methods.map (Identifier.rename ren.member)

/-- The line of a member link with the new name of the member, which is its second word. -/
def line (text : String) : String :=
  match Text.tokens text with
  | owner :: obfuscated :: words => " ".intercalate (owner :: ren.member obfuscated :: words)
  | _ => text

def memberLink : MemberLink → MemberLink
  | .field owner obfuscated community => .field owner (ren.member obfuscated) community
  | .method owner obfuscated descriptor community =>
    .method owner (ren.member obfuscated) descriptor community

end Renaming

/-! ## Links that find their target by an obfuscated name -/

inductive KeyedLink where
  | cls (obfuscated community : String)
  /-- Reads and carries out a member link. -/
  | memberLine (line : String)
  deriving DecidableEq, Repr

namespace KeyedLink

def attempt : KeyedLink → Attempt Registry Unit
  | cls obfuscated community => Attempt.linkClass obfuscated community
  | memberLine line => Attempt.linkMemberLine line

/-- The registry that links leave, one after the other. -/
def run (registry : Registry) (links : List KeyedLink) : Registry :=
  links.foldl (fun registry link => (link.attempt.on registry).value.2) registry

/-- Why a link is refused, if it is. -/
def refusal? (registry : Registry) (link : KeyedLink) : Option FaultKind :=
  match (link.attempt.on registry).value.1 with
  | .ok () => none
  | .error fault => some fault.kind

def refusals (registry : Registry) : List KeyedLink → List (Option FaultKind)
  | [] => []
  | link :: links =>
    link.refusal? registry :: refusals (link.attempt.on registry).value.2 links

/-- What a link comes to. -/
def result (registry : Registry) : KeyedLink → Except Fault Registry
  | cls obfuscated community => registry.linkClass obfuscated community
  | memberLine line => registry.linkMemberLine line

theorem value_on_attempt (registry : Registry) (link : KeyedLink) :
    (link.attempt.on registry).value =
      ((link.result registry).map fun _ => (), registry.orStay (link.result registry)) := by
  cases link with
  | cls obfuscated community => exact registry.value_on_linkClass obfuscated community
  | memberLine line => exact registry.value_on_linkMemberLine line

end KeyedLink

def Renaming.link (ren : Renaming) : KeyedLink → KeyedLink
  | .cls obfuscated community => .cls (ren.cls obfuscated) community
  | .memberLine line => .memberLine (ren.line line)

/-! ## Lines under new names -/

namespace Renaming

variable (ren : Renaming)

theorem tokens_line {text owner obfuscated : String} {words : List String}
    (h : Text.tokens text = owner :: obfuscated :: words) :
    Text.tokens (ren.line text) = owner :: ren.member obfuscated :: words := by
  have hold : ∀ word ∈ owner :: obfuscated :: words, Text.IsWord word :=
    fun word hword => Text.isWord_of_tokens_eq h hword
  have hnew : ∀ word ∈ owner :: ren.member obfuscated :: words, Text.IsWord word := by
    intro word hword
    rcases List.mem_cons.1 hword with rfl | hword
    · exact hold _ (List.mem_cons_self ..)
    · rcases List.mem_cons.1 hword with rfl | hword
      · exact ren.isWord_member obfuscated
      · exact hold word (List.mem_cons_of_mem _ (List.mem_cons_of_mem _ hword))
  rw [line, h]
  exact Text.tokens_intercalate hnew

/-- A line that is no member link is refused under its new name for the same reason. -/
theorem read_line (text : String) :
    MemberLink.read (ren.line text) = (MemberLink.read text).map ren.memberLink := by
  match htokens : Text.tokens text with
  | [] => simp [line, htokens, MemberLink.read, Except.map]
  | [word] => simp [line, htokens, MemberLink.read, Except.map]
  | owner :: obfuscated :: words =>
    have hrenamed := ren.tokens_line htokens
    match words with
    | [] => simp [hrenamed, htokens, MemberLink.read, Except.map]
    | [community] => simp [hrenamed, htokens, MemberLink.read, Except.map, memberLink]
    | [descriptor, community] => simp [hrenamed, htokens, MemberLink.read, Except.map, memberLink]
    | _ :: _ :: _ :: _ => simp [hrenamed, htokens, MemberLink.read, Except.map]

/-! ## The simulation -/

/-- The second registry is the first one under the new names. -/
structure Corresponds (plain renamed : Registry) : Prop where
  classes : renamed.classes = plain.classes.map ren.decl
  plain_indexed : plain.Indexed
  renamed_indexed : renamed.Indexed

variable {ren} {plain renamed : Registry}

theorem corresponds_ofClasses (ren : Renaming) (classes : Array ClassDecl) :
    ren.Corresponds (.ofClasses classes) (.ofClasses (classes.map ren.decl)) where
  classes := rfl
  plain_indexed := Registry.indexed_ofClasses _
  renamed_indexed := Registry.indexed_ofClasses _

namespace Corresponds

variable (h : ren.Corresponds plain renamed)

include h

theorem byObfuscated (name : String) :
    renamed.byObfuscated[ren.cls name]? = plain.byObfuscated[name]? := by
  have hkey : (fun cls : ClassDecl => cls.identity.obfuscated == ren.cls name) ∘ ren.decl =
      fun cls => cls.identity.obfuscated == name := by
    funext cls
    exact ren.cls_injective.beq_eq
  rw [h.renamed_indexed.byObfuscated, h.plain_indexed.byObfuscated, h.classes, Array.findIdx?_map,
    hkey]

theorem humanClass? (name : String) :
    renamed.humanClass? name = (plain.humanClass? name).map ren.decl := by
  rw [h.renamed_indexed.humanClass?, h.plain_indexed.humanClass?, h.classes, Array.find?_map]
  rfl

/-- The classes are found under the same community names. -/
theorem changed : Registry.Changed (fun _ => ren.decl) plain renamed where
  classes number := by rw [h.classes, Array.getElem?_map]
  communityNumber? name := by
    rw [h.renamed_indexed.communityNumber?, h.plain_indexed.communityNumber?, h.classes,
      Array.findIdx?_map]
    rfl

end Corresponds

/-! ## Members are found alike -/

theorem comp_rename (ren : Renaming) (obfuscated : String) :
    (fun id : Identifier => id.obfuscated == ren.member obfuscated) ∘
      Identifier.rename ren.member = fun id => id.obfuscated == obfuscated := by
  funext id
  exact ren.member_injective.beq_eq

theorem findIdx?_rename (ids : List Identifier) (obfuscated : String) :
    (ids.map (Identifier.rename ren.member)).findIdx? (·.obfuscated == ren.member obfuscated) =
      ids.findIdx? (·.obfuscated == obfuscated) := by
  rw [List.findIdx?_map, ren.comp_rename]

theorem kind_resolveField (cls : ClassDecl) (owner obfuscated community : String) :
    (Registry.resolveField (ren.decl cls) owner (ren.member obfuscated) community).mapError
        Fault.kind =
      (Registry.resolveField cls owner obfuscated community).mapError Fault.kind := by
  rw [Registry.resolveField, Registry.resolveField, decl, findIdx?_rename]
  cases cls.fields.findIdx? (·.obfuscated == obfuscated) <;> rfl

theorem kind_resolveMethod (cls : ClassDecl) (owner obfuscated community : String)
    (signature : Signature) :
    (Registry.resolveMethod (ren.decl cls) owner (ren.member obfuscated) community
        signature).mapError Fault.kind =
      (Registry.resolveMethod cls owner obfuscated community signature).mapError Fault.kind := by
  have hfits : (fun method : Identifier =>
        method.obfuscated == ren.member obfuscated && method.params == signature.params) ∘
      Identifier.rename ren.member =
        fun method => method.obfuscated == obfuscated && method.params == signature.params := by
    funext method
    exact congrArg (· && method.params == signature.params)
      (congrFun (ren.comp_rename obfuscated) method)
  simp only [Registry.resolveMethod, decl, List.any_map, List.find?_map, List.findIdx_map,
    ren.comp_rename, hfits]
  by_cases hany : cls.methods.any (·.obfuscated == obfuscated) = true
  · simp only [hany, Bool.not_true, Bool.false_eq_true, if_false]
    cases cls.methods.find? fun method =>
        method.obfuscated == obfuscated && method.params == signature.params with
    | none => rfl
    | some method =>
      by_cases htype : method.type = some signature.result
      · simp [Identifier.rename, htype]
      · simp [Identifier.rename, htype, Fault.kind]
  · simp only [hany, Bool.not_false, if_true]
    rfl

/-! ## One link -/

theorem nameIn_decl (community : String) (site : MemberSite) (cls : ClassDecl) :
    site.nameIn community (ren.decl cls) = ren.decl (site.nameIn community cls) := by
  have hlink : ∀ (ids : List Identifier) (number : Nat),
      (ids.map (Identifier.rename ren.member)).modify number (·.link community) =
        (ids.modify number (·.link community)).map (Identifier.rename ren.member) :=
    fun ids number => modify_map (f := fun id : Identifier => id.link community)
      (g := Identifier.rename ren.member) (fun _ => rfl) ids number
  cases site with
  | field owner number => simp only [MemberSite.nameIn, decl, hlink]
  | method owner number => simp only [MemberSite.nameIn, decl, hlink]

/-- Both links are carried out, and lead to registries that correspond, or both are refused for
faults of the same kind. -/
inductive SameOutcome (ren : Renaming) : Except Fault Registry → Except Fault Registry → Prop where
  | ok {plain renamed : Registry} (h : ren.Corresponds plain renamed) :
    SameOutcome ren (.ok plain) (.ok renamed)
  | error {fault fault' : Fault} (h : fault'.kind = fault.kind) :
    SameOutcome ren (.error fault) (.error fault')

namespace Corresponds

variable (h : ren.Corresponds plain renamed)

include h

theorem kind_resolve (link : MemberLink) :
    (renamed.resolve (ren.memberLink link)).mapError Fault.kind =
      (plain.resolve link).mapError Fault.kind := by
  cases link with
  | field owner obfuscated community =>
    simp only [memberLink, Registry.resolve, h.changed.ownerOf]
    cases plain.ownerOf owner with
    | error fault => rfl
    | ok found =>
      obtain ⟨number, cls⟩ := found
      exact mapError_bind_pure (MemberSite.field number)
        (kind_resolveField cls owner obfuscated community)
  | method owner obfuscated descriptor community =>
    simp only [memberLink, Registry.resolve, h.changed.ownerOf,
      h.changed.toHumanSignature fun _ _ => rfl]
    cases (Signature.read descriptor).mapError Fault.invalidDescriptor with
    | error fault => rfl
    | ok signature =>
      cases plain.ownerOf owner with
      | error fault => rfl
      | ok found =>
        obtain ⟨number, cls⟩ := found
        exact mapError_bind_pure (MemberSite.method number)
          (kind_resolveMethod cls owner obfuscated community (plain.toHumanSignature signature))

theorem nameMember (site : MemberSite) (community : String) :
    ren.Corresponds (plain.nameMember site community) (renamed.nameMember site community) where
  classes := by
    rw [Registry.nameMember_eq_modify, Registry.nameMember_eq_modify, h.classes]
    exact modify_map_array (nameIn_decl community site) plain.classes site.owner
  plain_indexed := h.plain_indexed.nameMember site community
  renamed_indexed := h.renamed_indexed.nameMember site community

theorem linkMember (link : MemberLink) :
    ren.SameOutcome (plain.linkMember link) (renamed.linkMember (ren.memberLink link)) := by
  have hkind := h.kind_resolve link
  have hcommunity : (ren.memberLink link).community = link.community := by cases link <;> rfl
  unfold Registry.linkMember
  rw [hcommunity]
  cases hplain : plain.resolve link with
  | error fault =>
    cases hrenamed : renamed.resolve (ren.memberLink link) with
    | error fault' =>
      rw [hplain, hrenamed] at hkind
      exact .error (Except.error.inj hkind)
    | ok site =>
      rw [hplain, hrenamed] at hkind
      cases hkind
  | ok site =>
    cases hrenamed : renamed.resolve (ren.memberLink link) with
    | error fault' =>
      rw [hplain, hrenamed] at hkind
      cases hkind
    | ok site' =>
      rw [hplain, hrenamed] at hkind
      cases hkind
      exact .ok (h.nameMember site link.community)

theorem linkMemberLine (line : String) :
    ren.SameOutcome (plain.linkMemberLine line) (renamed.linkMemberLine (ren.line line)) := by
  unfold Registry.linkMemberLine
  rw [ren.read_line]
  cases MemberLink.read line with
  | error fault => exact .error rfl
  | ok link => exact h.linkMember link

theorem linkClass (obfuscated community : String) :
    ren.SameOutcome (plain.linkClass obfuscated community)
      (renamed.linkClass (ren.cls obfuscated) community) := by
  unfold Registry.linkClass
  rw [h.byObfuscated]
  cases hfind : plain.byObfuscated[obfuscated]? with
  | none => exact .error rfl
  | some number =>
    rw [h.plain_indexed.byObfuscated] at hfind
    obtain ⟨hnumber, -⟩ := Array.findIdx?_eq_some_iff_getElem.1 hfind
    have hrenamed : number < renamed.classes.size := by
      rw [h.classes, Array.size_map]
      exact hnumber
    refine .ok ⟨?_, h.plain_indexed.nameClass hnumber community,
      h.renamed_indexed.nameClass hrenamed community⟩
    rw [Registry.classes_nameClass, Registry.classes_nameClass, h.classes]
    exact modify_map_array (f := (·.link community)) (g := ren.decl) (k := (·.link community))
      (fun _ => rfl) plain.classes number

/-- A link under the new name comes to the same as under the old one. -/
theorem result (link : KeyedLink) :
    ren.SameOutcome (link.result plain) ((ren.link link).result renamed) := by
  cases link with
  | cls obfuscated community => exact h.linkClass obfuscated community
  | memberLine line => exact h.linkMemberLine line

/-! ## Runs of links -/

theorem next (link : KeyedLink) :
    ren.Corresponds (link.attempt.on plain).value.2
      ((ren.link link).attempt.on renamed).value.2 := by
  have hlink := h.result link
  rw [KeyedLink.value_on_attempt, KeyedLink.value_on_attempt]
  generalize link.result plain = result at hlink
  generalize (ren.link link).result renamed = result' at hlink
  cases hlink with
  | ok hmoved => exact hmoved
  | error hkind => exact h

theorem refusal? (link : KeyedLink) :
    (ren.link link).refusal? renamed = link.refusal? plain := by
  have hlink := h.result link
  rw [KeyedLink.refusal?, KeyedLink.refusal?, KeyedLink.value_on_attempt,
    KeyedLink.value_on_attempt]
  generalize link.result plain = result at hlink
  generalize (ren.link link).result renamed = result' at hlink
  cases hlink with
  | ok hmoved => rfl
  | error hkind => exact congrArg some hkind

omit h in
theorem run (links : List KeyedLink) {plain renamed : Registry}
    (h : ren.Corresponds plain renamed) :
    ren.Corresponds (KeyedLink.run plain links) (KeyedLink.run renamed (links.map ren.link)) ∧
      KeyedLink.refusals renamed (links.map ren.link) = KeyedLink.refusals plain links := by
  induction links generalizing plain renamed with
  | nil => exact ⟨h, rfl⟩
  | cons link links ih =>
    obtain ⟨hrun, hrefusals⟩ := ih (h.next link)
    rw [List.map_cons]
    refine ⟨hrun, ?_⟩
    rw [KeyedLink.refusals, KeyedLink.refusals, h.refusal?, hrefusals]

/-! ## Names that are carried onto a new build -/

theorem namesake? (cls : Identifier) :
    renamed.namesake? cls = (plain.namesake? cls).map ren.decl := by
  unfold Registry.namesake?
  cases cls.human with
  | none => rfl
  | some human => exact h.humanClass? human

theorem carriedClassName? (cls : Identifier) :
    renamed.carriedClassName? cls = plain.carriedClassName? cls := by
  rw [Registry.carriedClassName?, Registry.carriedClassName?, h.namesake?, Option.bind_map]
  rfl

omit h in
/-- The search for the name of a field does not look at obfuscated names. -/
theorem visitFields_map (owner field : Identifier) (candidates : List Identifier) (tally : Tally) :
    Registry.visitFields owner field (candidates.map (Identifier.rename ren.member)) tally =
      Registry.visitFields owner field candidates tally := by
  induction candidates generalizing tally with
  | nil => rfl
  | cons candidate candidates ih =>
    rw [List.map_cons]
    simp only [Registry.visitFields, ih]
    rfl

theorem carriedMethodName? (owner method : Identifier) :
    renamed.carriedMethodName? owner method = plain.carriedMethodName? owner method := by
  unfold Registry.carriedMethodName?
  rw [h.namesake?]
  cases plain.namesake? owner with
  | none => rfl
  | some cls =>
    simp only [Option.map_some, Option.bind_some, decl, List.find?_map, Option.bind_map]
    rfl

theorem carrier : renamed.carrier = plain.carrier := by
  have hcls : renamed.carryClass = plain.carryClass := by
    funext cls tally
    rw [Registry.carryClass, Registry.carryClass, h.carriedClassName?]
  have hfield : renamed.carryField = plain.carryField := by
    funext owner field tally
    rw [Registry.carryField, Registry.carryField, h.namesake?]
    cases plain.namesake? owner with
    | none => rfl
    | some cls => exact visitFields_map owner field cls.fields tally
  have hmethod : renamed.carryMethod = plain.carryMethod := by
    funext owner method tally
    rw [Registry.carryMethod, Registry.carryMethod, h.carriedMethodName?]
  rw [Registry.carrier, Registry.carrier, hcls, hfield, hmethod]

end Corresponds

end Renaming

/-- If the classes and members of a build get new obfuscated names, and the links too, the same
links are refused for faults of the same kinds, the classes that come of it differ in their
obfuscated names only, and a new build is read with the same names, faults and counts. -/
theorem Registry.run_renamed (ren : Renaming) (classes : Array ClassDecl)
    (links : List KeyedLink) :
    KeyedLink.refusals (ofClasses (classes.map ren.decl)) (links.map ren.link) =
      KeyedLink.refusals (ofClasses classes) links ∧
    (KeyedLink.run (ofClasses (classes.map ren.decl)) (links.map ren.link)).classes =
      (KeyedLink.run (ofClasses classes) links).classes.map ren.decl ∧
    ∀ label report text,
      loadCarried (KeyedLink.run (ofClasses (classes.map ren.decl)) (links.map ren.link)) label
          report text =
        loadCarried (KeyedLink.run (ofClasses classes) links) label report text := by
  obtain ⟨hrun, hrefusals⟩ := (ren.corresponds_ofClasses classes).run links
  refine ⟨hrefusals, hrun.classes, fun label report text => ?_⟩
  rw [loadCarried, loadCarried, hrun.carrier]

end NameCarry
