import NameCarry.Proofs.Descriptors

/-!
# Which names and descriptors make the round trip

Writing a descriptor and reading it again does not always lead back to the start, nor does reading
and writing. Names lose their slashes, and an empty one is not written at all; a class in a
descriptor that is called like a primitive type, or like an array, becomes one.

The two round trips have the same successes (`restorable_iff`): a name comes back if it is the name
of a canonical token, and a descriptor comes back if all its tokens are canonical. That no failure
of one token makes up for that of another is a matter of length: no token gets longer when it is
written anew (`TypeToken.length_describeType_le`), so if the whole text comes back, each token does.
-/

namespace NameCarry

/-! ## Texts in pieces -/

section Pieces

variable {α β : Type}

theorem append_inj_of_length_le {a b c d : List α} (h : a ++ b = c ++ d)
    (hfront : a.length ≤ c.length) (hback : b.length ≤ d.length) : a = c ∧ b = d := by
  have hlength : a.length + b.length = c.length + d.length := by
    simpa using congrArg List.length h
  have hsame : a.length = c.length := by omega
  exact List.append_inj h hsame

theorem length_flatMap_le {xs : List α} {f g : α → List β}
    (hle : ∀ x ∈ xs, (f x).length ≤ (g x).length) :
    (xs.flatMap f).length ≤ (xs.flatMap g).length := by
  induction xs with
  | nil => exact Nat.le_refl _
  | cons x xs ih =>
    obtain ⟨hx, hxs⟩ := List.forall_mem_cons.1 hle
    have hrest := ih hxs
    rw [List.flatMap_cons, List.flatMap_cons, List.length_append, List.length_append]
    omega

/-- If no piece got longer and the text is the same, each piece is. -/
theorem eq_of_flatMap_eq {xs : List α} {f g : α → List β}
    (hle : ∀ x ∈ xs, (f x).length ≤ (g x).length) (h : xs.flatMap f = xs.flatMap g) :
    ∀ x ∈ xs, f x = g x := by
  induction xs with
  | nil => exact List.forall_mem_nil _
  | cons x xs ih =>
    obtain ⟨hx, hxs⟩ := List.forall_mem_cons.1 hle
    rw [List.flatMap_cons, List.flatMap_cons] at h
    obtain ⟨hhead, htail⟩ := append_inj_of_length_le h hx (length_flatMap_le hxs)
    exact List.forall_mem_cons.2 ⟨hhead, ih hxs htail⟩

end Pieces

/-! ## Dimensions and descriptors -/

theorem length_withDimensions (base : String) (depth : Nat) :
    (withDimensions base depth).toList.length = base.toList.length + 2 * depth := by
  simp [withDimensions, List.length_flatten, Nat.mul_comm]

theorem ne_empty_withDimensions {base : String} (h : base ≠ "") (depth : Nat) :
    withDimensions base depth ≠ "" := by
  intro hempty
  have hlength := length_withDimensions base depth
  have hbase : base.toList.length ≠ 0 := by simpa using h
  rw [hempty] at hlength
  simp at hlength
  omega

theorem toList_describeType_withDimensions {base : String} (h : base ≠ "") (depth : Nat) :
    (describeType (withDimensions base depth)).toList =
      List.replicate depth '[' ++ (describeType base).toList := by
  rw [TypeToken.toList_describeType (ne_empty_withDimensions h depth),
    TypeToken.toList_describeType h, splitDimensions_withDimensions_add, Nat.add_comm,
    ← List.replicate_append_replicate, List.append_assoc]

theorem BaseType.length_descriptor_ofName_le (name : String) :
    (ofName name).descriptor.length ≤ name.toList.length + 2 := by
  unfold ofName
  cases Primitive.ofName? name with
  | some type => simp [descriptor]
  | none => simp [descriptor]

/-! ## Canonical tokens -/

/-- The name of a class that keeps its spelling when its descriptor is read and written. -/
structure InternalName.Canonical (name : InternalName) : Prop where
  dot : '.' ∉ name.text.toList
  brackets : ¬ ['[', ']'] <:+ name.text.toList
  primitive : ∀ type : Primitive, name.text ≠ type.name

/-- A token whose class name, if it has one, is canonical. -/
def TypeToken.Canonical (token : TypeToken) : Prop :=
  ∀ name, token.base = .object name → name.Canonical

namespace InternalName

variable {name : InternalName}

theorem dotted_ne_empty (name : InternalName) : Text.dotted name.text ≠ "" := by
  intro hempty
  have hlength := congrArg (fun text : String => text.toList.length) hempty
  simp only [Text.toList_dotted, List.length_map] at hlength
  have hname := name.ne_empty
  simp at hlength
  exact hname hlength

theorem length_dotted (name : InternalName) :
    (Text.dotted name.text).toList.length = name.text.toList.length := by
  simp

theorem map_slashForDot_dotted_iff :
    (Text.dotted name.text).toList.map Text.slashForDot = name.text.toList ↔
      '.' ∉ name.text.toList := by
  rw [Text.toList_dotted, List.map_map]
  constructor
  · intro hsame hdot
    rw [← hsame] at hdot
    obtain ⟨c, -, hc⟩ := List.mem_map.1 hdot
    exact Text.slashForDot_ne_dot _ hc
  · intro hdot
    have hsame : ∀ c ∈ name.text.toList, (Text.slashForDot ∘ Text.dotForSlash) c = c := by
      intro c hc
      have hne : c ≠ '.' := fun hcdot => hdot (hcdot ▸ hc)
      by_cases hslash : c = '/'
      · rw [hslash]
        rfl
      · have hkept : Text.dotForSlash c = c := if_neg hslash
        rw [Function.comp_apply, hkept]
        exact if_neg hne
    exact map_eq_self hsame

theorem isSuffix_dotted_iff :
    ['[', ']'] <:+ (Text.dotted name.text).toList ↔ ['[', ']'] <:+ name.text.toList := by
  have hpair : ['[', ']'].map Text.dotForSlash = ['[', ']'] := by decide
  rw [Text.toList_dotted]
  constructor
  · rintro ⟨front, hfront⟩
    obtain ⟨before, pair, htext, -, hsame⟩ := List.map_eq_append_iff.1 hfront.symm
    simp only [List.map_eq_cons_iff, List.map_eq_nil_iff] at hsame
    obtain ⟨first, rest, rfl, hfirst, last, rest', rfl, hlast, rfl⟩ := hsame
    rw [Text.dotForSlash_eq_iff (by decide) (by decide)] at hfirst hlast
    exact ⟨before, by rw [htext, hfirst, hlast]⟩
  · intro hsuffix
    have hmap := hsuffix.map Text.dotForSlash
    rwa [hpair] at hmap

end InternalName

namespace BaseToken

theorem name_ne_empty (token : BaseToken) : token.name ≠ "" := by
  cases token with
  | code type => cases type <;> decide
  | object name => exact name.dotted_ne_empty

/-- A class name is written anew with its dimensions in front, under what is left of it. -/
theorem toList_describeType_object (name : InternalName) :
    (describeType (object name).name).toList =
      List.replicate (splitDimensions (Text.dotted name.text)).2 '[' ++
        (BaseType.ofName (splitDimensions (Text.dotted name.text)).1).descriptor :=
  TypeToken.toList_describeType name.dotted_ne_empty

theorem length_object (name : InternalName) :
    (object name).chars.length = (splitDimensions (Text.dotted name.text)).1.toList.length +
      2 * (splitDimensions (Text.dotted name.text)).2 + 2 := by
  rw [← length_withDimensions, withDimensions_splitDimensions, name.length_dotted]
  simp [chars]

theorem toList_describeType_code (type : Primitive) :
    (describeType (code type).name).toList = (code type).chars := by
  cases type <;> decide +kernel

theorem length_describeType_le (token : BaseToken) :
    (describeType token.name).toList.length ≤ token.chars.length := by
  cases token with
  | code type => rw [toList_describeType_code]
  | object name =>
    have hbase := BaseType.length_descriptor_ofName_le (splitDimensions (Text.dotted name.text)).1
    rw [toList_describeType_object, length_object, List.length_append, List.length_replicate]
    omega

theorem canonical_of_describeType {name : InternalName}
    (h : (describeType (object name).name).toList = (object name).chars) : name.Canonical := by
  have hbase := BaseType.length_descriptor_ofName_le (splitDimensions (Text.dotted name.text)).1
  have hlength := congrArg List.length h
  rw [toList_describeType_object, length_object, List.length_append, List.length_replicate]
    at hlength
  -- Only without dimensions is there as much to write as there was.
  have hdepth : (splitDimensions (Text.dotted name.text)).2 = 0 := by omega
  have hsplit := withDimensions_splitDimensions (Text.dotted name.text)
  have hname : (splitDimensions (Text.dotted name.text)).1 = Text.dotted name.text := by
    rw [hdepth] at hsplit
    simpa [withDimensions] using hsplit
  rw [toList_describeType_object, hdepth, hname, List.replicate_zero, List.nil_append] at h
  have hbrackets : ¬ ['[', ']'] <:+ name.text.toList := by
    intro hsuffix
    obtain ⟨front, hfront⟩ := InternalName.isSuffix_dotted_iff.2 hsuffix
    have hwith : Text.dotted name.text = withDimensions (String.ofList front) 1 := by
      apply String.toList_inj.1
      rw [← hfront]
      simp [withDimensions]
    rw [hwith, splitDimensions_withDimensions_add] at hdepth
    omega
  cases hprimitive : Primitive.ofName? (Text.dotted name.text) with
  | some type =>
    have hcode : (BaseType.ofName (Text.dotted name.text)).descriptor.length = 1 := by
      simp [BaseType.ofName, hprimitive, BaseType.descriptor]
    rw [h] at hcode
    simp [chars] at hcode
  | none =>
    have hdot : (Text.dotted name.text).toList.map Text.slashForDot = name.text.toList := by
      simpa [BaseType.ofName, hprimitive, BaseType.descriptor, chars] using h
    refine ⟨InternalName.map_slashForDot_dotted_iff.1 hdot, hbrackets, fun type htype => ?_⟩
    rw [htype, type.dotted_name, Primitive.ofName?_name] at hprimitive
    cases hprimitive

theorem describeType_of_canonical {name : InternalName} (h : name.Canonical) :
    (describeType (object name).name).toList = (object name).chars := by
  have hbrackets := mt InternalName.isSuffix_dotted_iff.1 h.brackets
  have hdot := InternalName.map_slashForDot_dotted_iff.2 h.dot
  have hprimitive : Primitive.ofName? (Text.dotted name.text) = none := by
    rw [Option.eq_none_iff_forall_ne_some]
    intro type htype
    have hname := Primitive.ofName?_eq_some_iff.1 htype
    have hplain : type.name.toList.map Text.slashForDot = type.name.toList := by
      cases type <;> decide +kernel
    rw [← hname, hplain] at hdot
    exact h.primitive type (String.toList_inj.1 hdot).symm
  rw [toList_describeType_object, splitDimensions_of_not_isSuffix hbrackets]
  simpa [BaseType.ofName, hprimitive, BaseType.descriptor, chars] using hdot

end BaseToken

namespace TypeToken

theorem toList_describeType_name (token : TypeToken) :
    (describeType token.name).toList =
      List.replicate token.depth '[' ++ (describeType token.base.name).toList := by
  rw [name_eq_withDimensions, toList_describeType_withDimensions token.base.name_ne_empty]

/-- A token does not get longer when it is written anew. -/
theorem length_describeType_le (token : TypeToken) :
    (describeType token.name).toList.length ≤ token.chars.length := by
  have hbase := token.base.length_describeType_le
  rw [toList_describeType_name, chars, List.length_append, List.length_append]
  omega

/-- The canonical tokens are those that come back when they are read and written. -/
theorem toList_describeType_eq_iff {token : TypeToken} :
    (describeType token.name).toList = token.chars ↔ token.Canonical := by
  rw [toList_describeType_name, chars, List.append_cancel_left_eq]
  obtain ⟨depth, base⟩ := token
  constructor
  · rintro h name rfl
    exact BaseToken.canonical_of_describeType h
  · intro h
    cases base with
    | code type => exact BaseToken.toList_describeType_code type
    | object name => exact BaseToken.describeType_of_canonical (h name rfl)

theorem describeType_eq_text_iff {token : TypeToken} :
    describeType token.name = token.text ↔ token.Canonical := by
  rw [← toList_describeType_eq_iff, ← toList_text, String.toList_inj]

end TypeToken

/-! ## Names that come back -/

/-- A type name that comes back when its descriptor is read: without its dimensions it is not empty,
and free of the `;` that ends a class name and of slashes. -/
structure Restorable (name : String) : Prop where
  base_ne_empty : (splitDimensions name).1 ≠ ""
  semicolon : ';' ∉ (splitDimensions name).1.toList
  slash : '/' ∉ (splitDimensions name).1.toList

theorem Restorable.writable {name : String} (h : Restorable name) : Writable name :=
  ⟨h.base_ne_empty, h.semicolon⟩

theorem Restorable.dotted_eq_self {name : String} (h : Restorable name) :
    Text.dotted name = name := by
  apply Text.dotted_eq_self
  rw [← mem_splitDimensions_iff (by decide) (by decide)]
  exact h.slash

theorem BaseToken.plain_name_of_canonical {token : BaseToken}
    (h : ∀ name, token = .object name → name.Canonical) :
    splitDimensions token.name = (token.name, 0) ∧ ';' ∉ token.name.toList ∧
      '/' ∉ token.name.toList := by
  cases token with
  | code type => cases type <;> decide +kernel
  | object name =>
    have hcanonical := h name rfl
    have hsemicolon : ';' ∉ (Text.dotted name.text).toList := by
      rw [Text.mem_dotted_iff (by decide) (by decide)]
      exact name.semicolon
    have hbrackets := mt InternalName.isSuffix_dotted_iff.1 hcanonical.brackets
    exact ⟨splitDimensions_of_not_isSuffix hbrackets, hsemicolon,
      Text.slash_not_mem_dotted name.text⟩

theorem restorable_iff {name : String} :
    Restorable name ↔ ∃ token : TypeToken, token.Canonical ∧ token.name = name := by
  constructor
  · intro h
    have hname : (TypeToken.ofName name h.writable).name = name := by
      rw [TypeToken.name_ofName, h.dotted_eq_self]
    refine ⟨TypeToken.ofName name h.writable, ?_, hname⟩
    rw [← TypeToken.describeType_eq_text_iff, hname, TypeToken.text_ofName]
  · rintro ⟨token, hcanonical, rfl⟩
    obtain ⟨hsplit, hsemicolon, hslash⟩ := BaseToken.plain_name_of_canonical hcanonical
    have hbase : (splitDimensions token.name).1 = token.base.name := by
      rw [TypeToken.name_eq_withDimensions, splitDimensions_withDimensions_add, hsplit]
    constructor
    · rw [hbase]
      exact token.base.name_ne_empty
    · rw [hbase]
      exact hsemicolon
    · rw [hbase]
      exact hslash

theorem TypeToken.read_describeType_eq_ok_iff {name : String} :
    (TypeRef.read (describeType name)).map TypeRef.name = .ok name ↔ Restorable name := by
  rw [restorable_iff, map_eq_ok_iff]
  constructor
  · rintro ⟨type, hread, hname⟩
    obtain ⟨token, htext, rfl⟩ := read_eq_ok_iff_token.1 hread
    rw [name_type] at hname
    refine ⟨token, describeType_eq_text_iff.1 ?_, hname⟩
    rw [hname, htext]
  · rintro ⟨token, hcanonical, rfl⟩
    have htext := describeType_eq_text_iff.2 hcanonical
    exact ⟨token.type, read_eq_ok_iff_token.2 ⟨token, htext.symm, rfl⟩, token.name_type⟩

/-! ## Method descriptors -/

namespace Signature

theorem toList_descriptor (signature : Signature) :
    signature.descriptor.toList = '(' ::
      (signature.params.flatMap (fun name => (describeType name).toList) ++
        ')' :: (describeType signature.result).toList) := by
  simp [descriptor, String.toList_join, List.flatMap_map]

/-- A method descriptor comes back when it is read and written if all its tokens do. -/
theorem Spelling.descriptor_signature_eq_iff {spelling : Spelling} :
    spelling.signature.descriptor = spelling.text ↔ ∀ token ∈ spelling.tokens, token.Canonical := by
  have hle : ∀ token ∈ spelling.params,
      (describeType token.name).toList.length ≤ token.chars.length :=
    fun token _ => token.length_describeType_le
  have hwritten : spelling.signature.descriptor.toList = '(' ::
      (spelling.params.flatMap (fun token => (describeType token.name).toList) ++
        ')' :: (describeType spelling.result.name).toList) := by
    rw [toList_descriptor, Spelling.signature, List.flatMap_map]
  have hspelled : spelling.text.toList = '(' ::
      (spelling.params.flatMap TypeToken.chars ++ ')' :: spelling.result.chars) := by
    rw [toList_text, TypeToken.toList_row, List.flatMap_def]
  rw [tokens, List.forall_mem_append, List.forall_mem_singleton]
  simp only [← TypeToken.toList_describeType_eq_iff]
  constructor
  · intro h
    rw [← String.toList_inj, hwritten, hspelled, List.cons.injEq] at h
    have hresult := Nat.succ_le_succ spelling.result.length_describeType_le
    obtain ⟨hparams, hrest⟩ := append_inj_of_length_le h.2 (length_flatMap_le hle) hresult
    exact ⟨eq_of_flatMap_eq hle hparams, (List.cons.inj hrest).2⟩
  · rintro ⟨hparams, hresult⟩
    apply String.toList_inj.1
    rw [hwritten, hspelled, hresult, List.flatMap_congr hparams]

theorem restorable_of_read_descriptor {signature : Signature}
    (h : read signature.descriptor = .ok signature) :
    (∀ name ∈ signature.params, Restorable name ∧ ')' ∉ name.toList) ∧
      Restorable signature.result := by
  obtain ⟨spelling, htext, rfl⟩ := Spelling.exists_of_read h
  have hcanonical := Spelling.descriptor_signature_eq_iff.1 htext.symm
  rw [Spelling.tokens, List.forall_mem_append, List.forall_mem_singleton] at hcanonical
  obtain ⟨hparams, hresult⟩ := hcanonical
  refine ⟨?_, restorable_iff.2 ⟨_, hresult, rfl⟩⟩
  intro name hname
  obtain ⟨token, htoken, rfl⟩ := List.mem_map.1 hname
  have hparenthesis := mt token.parenthesis_mem_text_iff.2 (spelling.parenthesis token htoken)
  exact ⟨restorable_iff.2 ⟨token, hparams token htoken, rfl⟩, hparenthesis⟩

theorem read_descriptor_of_restorable {signature : Signature}
    (hparams : ∀ name ∈ signature.params, Restorable name ∧ ')' ∉ name.toList)
    (hresult : Restorable signature.result) :
    read signature.descriptor = .ok signature := by
  have hdotted : signature.params.map Text.dotted = signature.params :=
    map_eq_self fun name hname => (hparams name hname).1.dotted_eq_self
  have hread := read_descriptor_of_writable (fun name hname => (hparams name hname).1.writable)
    hresult.writable fun name hname => (hparams name hname).2
  rw [hdotted, hresult.dotted_eq_self] at hread
  exact hread

/-- A signature is read back as it was if its names come back, and if no closing parenthesis in its
parameters ends them before their end. A single name is read back if it comes back. -/
theorem read_descriptor_eq_self_iff :
    (∀ signature : Signature, read signature.descriptor = .ok signature ↔
      (∀ name ∈ signature.params, Restorable name ∧ ')' ∉ name.toList) ∧
        Restorable signature.result) ∧
    (∀ name, (TypeRef.read (describeType name)).map TypeRef.name = .ok name ↔ Restorable name) := by
  constructor
  · intro signature
    constructor
    · exact restorable_of_read_descriptor
    · rintro ⟨hparams, hresult⟩
      exact read_descriptor_of_restorable hparams hresult
  · intro name
    exact TypeToken.read_describeType_eq_ok_iff

/-- A method descriptor, which can be taken apart into tokens in one way, is written again as it was
if all of them are canonical. So is the descriptor of a single type. -/
theorem descriptor_read_eq_self_iff :
    (∀ descriptor signature, read descriptor = .ok signature →
      (∃! spelling : Spelling, spelling.text = descriptor) ∧
      ∀ spelling : Spelling, spelling.text = descriptor →
        (signature.descriptor = descriptor ↔ ∀ token ∈ spelling.tokens, token.Canonical)) ∧
    (∀ descriptor type, TypeRef.read descriptor = .ok type →
      (∃! token : TypeToken, token.text = descriptor) ∧
      ∀ token : TypeToken, token.text = descriptor →
        (describeType type.name = descriptor ↔ token.Canonical)) := by
  constructor
  · intro descriptor signature hread
    obtain ⟨spelling, rfl, rfl⟩ := Spelling.exists_of_read hread
    refine ⟨⟨spelling, rfl, fun other hother => Spelling.text_injective hother⟩, ?_⟩
    intro other hother
    obtain rfl := Spelling.text_injective hother
    exact Spelling.descriptor_signature_eq_iff
  · intro descriptor type hread
    obtain ⟨token, rfl, rfl⟩ := TypeToken.read_eq_ok_iff_token.1 hread
    refine ⟨⟨token, rfl, fun other hother => TypeToken.text_injective hother⟩, ?_⟩
    intro other hother
    obtain rfl := TypeToken.text_injective hother
    rw [TypeToken.name_type]
    exact TypeToken.describeType_eq_text_iff

/-- A class that is called like a primitive type is written as that type. -/
theorem descriptor_read_eq_self_iff_byte :
    read "(La/b;[Lbyte;)V" = .ok { params := ["a.b", "byte[]"], result := "void" } ∧
    TypeRef.read "[Lbyte;" = .ok { depth := 1, base := .object "byte" } ∧
    (∃! spelling : Spelling, spelling.text = "(La/b;[Lbyte;)V") ∧
    (∀ spelling : Spelling, spelling.text = "(La/b;[Lbyte;)V" →
      ¬ ∀ token ∈ spelling.tokens, token.Canonical) ∧
    ∀ token : TypeToken, token.text = "[Lbyte;" → ¬ token.Canonical := by
  have hread : read "(La/b;[Lbyte;)V" =
      .ok { params := ["a.b", "byte[]"], result := "void" } := by cbv
  have htype : TypeRef.read "[Lbyte;" = .ok { depth := 1, base := .object "byte" } := by
    decide +kernel
  obtain ⟨hunique, hsignature⟩ := descriptor_read_eq_self_iff.1 _ _ hread
  obtain ⟨-, htoken⟩ := descriptor_read_eq_self_iff.2 _ _ htype
  refine ⟨hread, htype, hunique, ?_, ?_⟩
  · intro spelling htext
    rw [← hsignature spelling htext]
    decide +kernel
  · intro token htext
    rw [← htoken token htext]
    decide +kernel

end Signature

end NameCarry
