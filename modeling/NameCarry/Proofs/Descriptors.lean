import NameCarry.Proofs.TypeTokens

/-!
# Descriptors that are written and read again

The descriptor of a type name is a token (`TypeToken.ofName`), and the token has the name with dots
for the slashes in it. So a method descriptor is read back as the signature that it was written for,
with dotted names (`Signature.read_descriptor`). What is asked of the names is that none is empty
and that they are free of the two characters which end a class name and a parameter list.
-/

namespace NameCarry

theorem map_eq_self {α : Type} {f : α → α} {xs : List α} (h : ∀ x ∈ xs, f x = x) :
    xs.map f = xs :=
  (List.map_congr_left h).trans (List.map_id' xs)

/-! ## Slashes -/

namespace Text

theorem dotForSlash_slashForDot (c : Char) : dotForSlash (slashForDot c) = dotForSlash c := by
  grind [dotForSlash, slashForDot]

theorem dotted_eq_self {name : String} (h : '/' ∉ name.toList) : dotted name = name := by
  have hsame : ∀ c ∈ name.toList, dotForSlash c = c := by
    intro c hc
    refine if_neg ?_
    rintro rfl
    exact h hc
  apply String.toList_inj.1
  rw [toList_dotted, map_eq_self hsame]

theorem dotForSlash_ne_slash (c : Char) : dotForSlash c ≠ '/' := by
  unfold dotForSlash
  split
  · decide
  · assumption

theorem slashForDot_ne_dot (c : Char) : slashForDot c ≠ '.' := by
  unfold slashForDot
  split
  · decide
  · assumption

theorem dotForSlash_eq_iff {c d : Char} (hdot : d ≠ '.') (hslash : d ≠ '/') :
    dotForSlash c = d ↔ c = d := by
  unfold dotForSlash
  split
  · next hc =>
    subst hc
    exact iff_of_false hdot.symm hslash.symm
  · rfl

theorem slashForDot_eq_iff {c d : Char} (hdot : d ≠ '.') (hslash : d ≠ '/') :
    slashForDot c = d ↔ c = d := by
  unfold slashForDot
  split
  · next hc =>
    subst hc
    exact iff_of_false hslash.symm hdot.symm
  · rfl

/-- Dots and slashes apart, a dotted name has the characters of the name. -/
theorem mem_dotted_iff {name : String} {c : Char} (hdot : c ≠ '.') (hslash : c ≠ '/') :
    c ∈ (dotted name).toList ↔ c ∈ name.toList := by
  rw [toList_dotted, List.mem_map]
  simp only [dotForSlash_eq_iff hdot hslash, exists_eq_right]

theorem slash_not_mem_dotted (name : String) : '/' ∉ (dotted name).toList := by
  rw [toList_dotted]
  intro hmem
  obtain ⟨c, -, hc⟩ := List.mem_map.1 hmem
  exact dotForSlash_ne_slash c hc

end Text

theorem Primitive.dotted_name (type : Primitive) : Text.dotted type.name = type.name := by
  cases type <;> decide +kernel

/-! ## Dimensions -/

theorem stripPairs_append (depth n : Nat) (cs : List Char) :
    stripPairs depth ((List.replicate n [']', '[']).flatten ++ cs) = stripPairs (depth + n) cs := by
  induction n generalizing depth with
  | zero => rfl
  | succ n ih =>
    have hpair : (List.replicate (n + 1) [']', '[']).flatten ++ cs =
        ']' :: '[' :: ((List.replicate n [']', '[']).flatten ++ cs) := by
      simp [List.replicate_succ]
    rw [hpair, stripPairs, ih, Nat.add_right_comm, Nat.add_assoc]

theorem stripPairs_of_not_isPrefix {cs : List Char} (h : ¬ [']', '['] <+: cs) (depth : Nat) :
    stripPairs depth cs = (cs, depth) := by
  unfold stripPairs
  split
  · next rest => exact absurd ⟨rest, rfl⟩ h
  · rfl

theorem stripPairs_add (depth n : Nat) (cs : List Char) :
    stripPairs (depth + n) cs = ((stripPairs depth cs).1, (stripPairs depth cs).2 + n) := by
  fun_induction stripPairs depth cs with
  | case1 depth rest ih => rw [stripPairs, Nat.add_right_comm, ih]
  | case2 depth rest hrest =>
    refine stripPairs_of_not_isPrefix ?_ _
    rintro ⟨behind, rfl⟩
    exact hrest behind rfl

/-- Dimensions are added to those that a name has already. -/
theorem splitDimensions_withDimensions_add (base : String) (depth : Nat) :
    splitDimensions (withDimensions base depth) =
      ((splitDimensions base).1, (splitDimensions base).2 + depth) := by
  have hreverse : (withDimensions base depth).toList.reverse =
      (List.replicate depth [']', '[']).flatten ++ base.toList.reverse := by
    simp [withDimensions, List.reverse_flatten]
  simp only [splitDimensions, hreverse, stripPairs_append, stripPairs_add]

theorem splitDimensions_of_not_isSuffix {name : String} (h : ¬ ['[', ']'] <:+ name.toList) :
    splitDimensions name = (name, 0) := by
  have hreverse : ¬ [']', '['] <+: name.toList.reverse := fun hprefix =>
    h (List.reverse_prefix.1 hprefix)
  simp [splitDimensions, stripPairs_of_not_isPrefix hreverse]

/-- The dimensions behind a name without closing brackets are the ones that are split off. -/
theorem splitDimensions_withDimensions {base : String} (h : ']' ∉ base.toList) (depth : Nat) :
    splitDimensions (withDimensions base depth) = (base, depth) := by
  have hbase : ¬ ['[', ']'] <:+ base.toList := fun hsuffix => h (hsuffix.mem (by simp))
  rw [splitDimensions_withDimensions_add, splitDimensions_of_not_isSuffix hbase, Nat.zero_add]

/-- The base of a type name has no dimensions left. -/
theorem splitDimensions_base (name : String) :
    splitDimensions (splitDimensions name).1 = ((splitDimensions name).1, 0) := by
  have hname := withDimensions_splitDimensions name
  rcases hsplit : splitDimensions name with ⟨base, depth⟩
  rw [hsplit] at hname
  -- Were there dimensions left, they would have been counted twice.
  have hadd := splitDimensions_withDimensions_add base depth
  rw [hname, hsplit, Prod.mk.injEq] at hadd
  have hdepth : (splitDimensions base).2 = 0 := by omega
  exact Prod.ext hadd.1.symm hdepth

@[simp]
theorem withDimensions_zero (base : String) : withDimensions base 0 = base := by
  simp [withDimensions]

theorem withDimensions_one (base : String) : withDimensions base 1 = base ++ "[]" := by
  apply String.toList_inj.1
  simp [withDimensions]

theorem withDimensions_withDimensions (base : String) (m n : Nat) :
    withDimensions (withDimensions base m) n = withDimensions base (m + n) := by
  simp only [withDimensions, String.toList_ofList, List.append_assoc, ← List.flatten_append,
    List.replicate_append_replicate]

theorem withDimensions_inj {a b : String} {depth : Nat} :
    withDimensions a depth = withDimensions b depth ↔ a = b := by
  rw [withDimensions, withDimensions, String.ofList_inj, List.append_cancel_right_eq,
    String.toList_inj]

theorem dotted_withDimensions (base : String) (depth : Nat) :
    Text.dotted (withDimensions base depth) = withDimensions (Text.dotted base) depth := by
  have hpair : ['[', ']'].map Text.dotForSlash = ['[', ']'] := by decide
  apply String.toList_inj.1
  simp [withDimensions, List.map_flatten, hpair]

/-- Brackets apart, dimensions add no characters to a name. -/
theorem mem_withDimensions_iff {base : String} {depth : Nat} {c : Char} (hopen : c ≠ '[')
    (hclose : c ≠ ']') : c ∈ (withDimensions base depth).toList ↔ c ∈ base.toList := by
  have hpairs : c ∉ (List.replicate depth ['[', ']']).flatten := by
    intro hmem
    obtain ⟨pair, hpair, hc⟩ := List.mem_flatten.1 hmem
    rw [List.eq_of_mem_replicate hpair] at hc
    simp [hopen, hclose] at hc
  rw [withDimensions, String.toList_ofList, List.mem_append, or_iff_left hpairs]

theorem mem_splitDimensions_iff {name : String} {c : Char} (hopen : c ≠ '[') (hclose : c ≠ ']') :
    c ∈ (splitDimensions name).1.toList ↔ c ∈ name.toList := by
  rw [← mem_withDimensions_iff hopen hclose, withDimensions_splitDimensions]

/-! ## Tokens of type names -/

/-- A type name whose descriptor is a token: without its dimensions it is not empty, and free of the
`;` that ends a class name. -/
structure Writable (name : String) : Prop where
  base_ne_empty : (splitDimensions name).1 ≠ ""
  semicolon : ';' ∉ (splitDimensions name).1.toList

/-- A type name that can be written in a descriptor: without its dimensions it is not empty, and
free of the characters that end a class name and a parameter list. -/
structure Describable (name : String) : Prop where
  base_ne_empty : (splitDimensions name).1 ≠ ""
  semicolon : ';' ∉ (splitDimensions name).1.toList
  parenthesis : ')' ∉ (splitDimensions name).1.toList

theorem Writable.ne_empty {name : String} (h : Writable name) : name ≠ "" := by
  rintro rfl
  exact h.base_ne_empty (by decide)

theorem Describable.writable {name : String} (h : Describable name) : Writable name :=
  ⟨h.base_ne_empty, h.semicolon⟩

theorem Describable.parenthesis_not_mem {name : String} (h : Describable name) :
    ')' ∉ name.toList := fun hmem =>
  h.parenthesis ((mem_splitDimensions_iff (by decide) (by decide)).2 hmem)

namespace TypeToken

/-- The parenthesis that ends the parameters stands in a token if it stands in its name. -/
theorem parenthesis_mem_text_iff (token : TypeToken) :
    ')' ∈ token.text.toList ↔ ')' ∈ token.name.toList := by
  have hbase : ')' ∈ token.base.chars ↔ ')' ∈ token.base.name.toList := by
    cases token.base with
    | code type => cases type <;> decide +kernel
    | object name =>
      rw [BaseToken.name, Text.mem_dotted_iff (by decide) (by decide)]
      simp [BaseToken.chars]
  rw [toList_text, chars, name_eq_withDimensions, mem_withDimensions_iff (by decide) (by decide),
    ← hbase]
  simp

/-- The name of a class with slashes for the dots in it. -/
def internalName (name : String) (hne : name ≠ "") (hend : ';' ∉ name.toList) : InternalName where
  text := String.ofList (name.toList.map Text.slashForDot)
  ne_empty := by
    rw [Ne, String.ofList_eq_empty_iff, List.map_eq_nil_iff, String.toList_eq_nil_iff]
    exact hne
  semicolon := by
    rw [String.toList_ofList]
    intro hmem
    obtain ⟨c, hc, hsemicolon⟩ := List.mem_map.1 hmem
    rw [Text.slashForDot_eq_iff (by decide) (by decide)] at hsemicolon
    exact hend (hsemicolon ▸ hc)

def ofName (name : String) (h : Writable name) : TypeToken where
  depth := (splitDimensions name).2
  base :=
    match Primitive.ofName? (splitDimensions name).1 with
    | some type => .code type
    | none => .object (internalName _ h.base_ne_empty h.semicolon)

theorem toList_describeType {name : String} (h : name ≠ "") :
    (describeType name).toList = List.replicate (splitDimensions name).2 '[' ++
      (BaseType.ofName (splitDimensions name).1).descriptor := by
  have hempty : name.isEmpty = false := by simp [h]
  rw [describeType, hempty, if_neg Bool.false_ne_true, TypeRef.descriptor, String.toList_ofList]
  rfl

theorem text_ofName {name : String} (h : Writable name) :
    (ofName name h).text = describeType name := by
  apply String.toList_inj.1
  rw [toList_text, toList_describeType h.ne_empty, chars, ofName, BaseType.ofName]
  cases Primitive.ofName? (splitDimensions name).1 with
  | some type => rfl
  | none => simp [BaseToken.chars, BaseType.descriptor, internalName]

theorem name_ofName {name : String} (h : Writable name) :
    (ofName name h).name = Text.dotted name := by
  have hbase : (ofName name h).base.name = Text.dotted (splitDimensions name).1 := by
    rw [ofName]
    cases hprimitive : Primitive.ofName? (splitDimensions name).1 with
    | some type =>
      have hname : type.name = (splitDimensions name).1 := Primitive.ofName?_eq_some_iff.1 hprimitive
      exact type.dotted_name.symm.trans (congrArg Text.dotted hname)
    | none =>
      apply String.toList_inj.1
      simp [BaseToken.name, internalName, Text.dotForSlash_slashForDot]
  have hname : Text.dotted name =
      withDimensions (Text.dotted (splitDimensions name).1) (splitDimensions name).2 := by
    rw [← dotted_withDimensions, withDimensions_splitDimensions]
  rw [name_eq_withDimensions, hbase, hname, ofName]

end TypeToken

/-- What holds of the characters of all descriptors, and of those of a name once it has slashes,
holds of the characters of its descriptor. -/
theorem TypeRef.forall_mem_descriptorChars {p : Char → Prop} {name : String} (hbracket : p '[')
    (hopen : p 'L') (hclose : p ';') (hcode : ∀ type : Primitive, p type.code)
    (hname : ∀ c ∈ (splitDimensions name).1.toList, p (Text.slashForDot c)) :
    ∀ c ∈ (ofName name).descriptorChars, p c := by
  have hbase : ∀ c ∈ (BaseType.ofName (splitDimensions name).1).descriptor, p c := by
    unfold BaseType.ofName
    cases Primitive.ofName? (splitDimensions name).1 with
    | some type =>
      intro c hc
      rw [List.mem_singleton.1 hc]
      exact hcode type
    | none =>
      intro c hc
      rcases List.mem_append.1 hc with hc | hc
      · rcases List.mem_cons.1 hc with rfl | hc
        · exact hopen
        · obtain ⟨dotted, hdotted, rfl⟩ := List.mem_map.1 hc
          exact hname dotted hdotted
      · rw [List.mem_singleton.1 hc]
        exact hclose
  intro c hc
  rcases List.mem_append.1 hc with hc | hc
  · rw [List.eq_of_mem_replicate hc]
    exact hbracket
  · exact hbase c hc

/-! ## Signatures -/

namespace Signature

variable {signature : Signature}

def Spelling.ofSignature (signature : Signature)
    (hparams : ∀ name ∈ signature.params, Writable name) (hresult : Writable signature.result)
    (hparenthesis : ∀ name ∈ signature.params, ')' ∉ name.toList) : Spelling where
  params := signature.params.pmap TypeToken.ofName hparams
  result := TypeToken.ofName signature.result hresult
  parenthesis := by
    intro token htoken
    obtain ⟨name, hname, rfl⟩ := List.mem_pmap.1 htoken
    rw [TypeToken.parenthesis_mem_text_iff, TypeToken.name_ofName,
      Text.mem_dotted_iff (by decide) (by decide)]
    exact hparenthesis name hname

theorem Spelling.text_ofSignature (hparams : ∀ name ∈ signature.params, Writable name)
    (hresult : Writable signature.result)
    (hparenthesis : ∀ name ∈ signature.params, ')' ∉ name.toList) :
    (ofSignature signature hparams hresult hparenthesis).text = signature.descriptor := by
  have hrow : (signature.params.pmap TypeToken.ofName hparams).map TypeToken.text =
      signature.params.map describeType := by
    rw [List.map_pmap]
    simp only [TypeToken.text_ofName, List.pmap_eq_map]
  rw [text, ofSignature, TypeToken.row, hrow, TypeToken.text_ofName]
  rfl

theorem Spelling.signature_ofSignature (hparams : ∀ name ∈ signature.params, Writable name)
    (hresult : Writable signature.result)
    (hparenthesis : ∀ name ∈ signature.params, ')' ∉ name.toList) :
    (ofSignature signature hparams hresult hparenthesis).signature =
      { params := signature.params.map Text.dotted, result := Text.dotted signature.result } := by
  have hnames : (signature.params.pmap TypeToken.ofName hparams).map TypeToken.name =
      signature.params.map Text.dotted := by
    rw [List.map_pmap]
    simp only [TypeToken.name_ofName, List.pmap_eq_map]
  rw [Spelling.signature, ofSignature, hnames, TypeToken.name_ofName]

theorem read_descriptor_of_writable (hparams : ∀ name ∈ signature.params, Writable name)
    (hresult : Writable signature.result)
    (hparenthesis : ∀ name ∈ signature.params, ')' ∉ name.toList) :
    read signature.descriptor = .ok
      { params := signature.params.map Text.dotted, result := Text.dotted signature.result } := by
  rw [← Spelling.text_ofSignature hparams hresult hparenthesis, Spelling.read_text,
    Spelling.signature_ofSignature]

/-- A method descriptor is read back as the signature that it was written for, with dotted names. -/
theorem read_descriptor (hparams : ∀ name ∈ signature.params, Describable name)
    (hresult : Describable signature.result) :
    read signature.descriptor =
      .ok { params := signature.params.map Text.dotted, result := Text.dotted signature.result } :=
  read_descriptor_of_writable (fun name hname => (hparams name hname).writable) hresult.writable
    fun name hname => (hparams name hname).parenthesis_not_mem

end Signature

end NameCarry
