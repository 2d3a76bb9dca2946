import NameCarry.Descriptor.Signature
import NameCarry.Proofs.Cuts
import NameCarry.Proofs.Links

/-!
# The grammar of type descriptors

A type descriptor is a row of opening brackets and a base behind it: the code of a primitive type,
or a class name between `L` and `;`, in which everything but a `;` may stand. These are the tokens
that the reader takes off a text one by one, and no text has two different tokens at its start
(`TypeToken.append_inj`). A method descriptor is a row of tokens in parentheses, none of them with a
closing parenthesis in it, and a token for the result.

The reader accepts the descriptors of this grammar and nothing else, and gives the names of their
types (`Signature.read_eq_ok_iff_spelled`).
-/

namespace NameCarry

theorem Text.cutFirst?_append_cons {sep : Char} {before : List Char} (h : sep ∉ before)
    (behind : List Char) : cutFirst? [sep] (before ++ sep :: behind) = some (before, behind) :=
  cutFirst?_char_eq_some_iff.2 ⟨rfl, h⟩

/-! ## Tokens -/

/-- The name of a class as it stands in a descriptor, where a `;` ends it. -/
structure InternalName where
  text : String
  ne_empty : text ≠ ""
  semicolon : ';' ∉ text.toList

/-- The base of a type, as it is spelled in a descriptor. -/
inductive BaseToken where
  | code (type : Primitive)
  | object (name : InternalName)

/-- A type, as it is spelled in a descriptor. -/
structure TypeToken where
  depth : Nat
  base : BaseToken

namespace BaseToken

def chars : BaseToken → List Char
  | code type => [type.code]
  | object name => 'L' :: (name.text.toList ++ [';'])

def name : BaseToken → String
  | code type => type.name
  | object name => Text.dotted name.text

def type : BaseToken → BaseType
  | code type => .primitive type
  | object name => .object (Text.dotted name.text)

theorem name_type (token : BaseToken) : token.type.name = token.name := by
  cases token <;> rfl

theorem exists_chars_eq_cons (token : BaseToken) :
    ∃ c cs, token.chars = c :: cs ∧ c ≠ '[' := by
  cases token with
  | code type => exact ⟨type.code, [], rfl, by cases type <;> decide⟩
  | object name => exact ⟨'L', _, rfl, by decide⟩

end BaseToken

namespace TypeToken

def chars (token : TypeToken) : List Char :=
  List.replicate token.depth '[' ++ token.base.chars

def text (token : TypeToken) : String :=
  String.ofList token.chars

def name (token : TypeToken) : String :=
  token.base.name ++ String.join (List.replicate token.depth "[]")

def type (token : TypeToken) : TypeRef where
  depth := token.depth
  base := token.base.type

/-- The text in which tokens follow one another. -/
def row (tokens : List TypeToken) : String :=
  String.join (tokens.map text)

@[simp]
theorem toList_text (token : TypeToken) : token.text.toList = token.chars :=
  String.toList_ofList

theorem toList_row (tokens : List TypeToken) :
    (row tokens).toList = (tokens.map chars).flatten := by
  rw [row, String.toList_join, List.flatMap_map, List.flatMap_def]
  simp only [toList_text]

theorem name_eq_withDimensions (token : TypeToken) :
    token.name = withDimensions token.base.name token.depth := by
  apply String.toList_inj.1
  simp [withDimensions, name, String.toList_join, List.flatMap_def]

theorem name_type (token : TypeToken) : token.type.name = token.name := by
  rw [name_eq_withDimensions, TypeRef.name, type, token.base.name_type]

theorem map_name_type (tokens : List TypeToken) :
    (tokens.map type).map TypeRef.name = tokens.map name := by
  rw [List.map_map]
  exact List.map_congr_left fun token _ => token.name_type

end TypeToken

/-! ## Reading tokens -/

namespace BaseToken

theorem next_chars_append (token : BaseToken) (rest : List Char) :
    BaseType.next (token.chars ++ rest) = .ok (token.type, rest) := by
  cases token with
  | code type => cases type <;> rfl
  | object name =>
    have hname : name.text.toList ≠ [] := mt String.toList_eq_nil_iff.1 name.ne_empty
    have hcut : Text.cutFirst? [';'] (name.text.toList ++ ';' :: rest) =
        some (name.text.toList, rest) := Text.cutFirst?_append_cons name.semicolon rest
    have hdotted : String.ofList (name.text.toList.map Text.dotForSlash) =
        Text.dotted name.text := by
      apply String.toList_inj.1
      simp
    simp only [chars, List.cons_append, List.append_assoc, List.nil_append, BaseType.next, hcut,
      type, ← hdotted]

theorem exists_of_next {cs rest : List Char} {base : BaseType}
    (h : BaseType.next cs = .ok (base, rest)) :
    ∃ token : BaseToken, token.chars ++ rest = cs ∧ token.type = base := by
  unfold BaseType.next at h
  split at h
  · cases h
  · next cs =>
    split at h
    · cases h
    · cases h
    · next name rest hne hcut =>
      cases h
      obtain ⟨rfl, hsemicolon⟩ := Text.cutFirst?_char_eq_some_iff.1 hcut
      have hname : String.ofList name ≠ "" := by
        rw [Ne, String.ofList_eq_empty_iff]
        rintro rfl
        exact hne rfl
      refine ⟨.object ⟨String.ofList name, hname, by rwa [String.toList_ofList]⟩, ?_, ?_⟩
      · simp [chars]
      · refine congrArg BaseType.object (String.toList_inj.1 ?_)
        simp
  · next c cs hc =>
    split at h
    · cases h
    · next type htype =>
      cases h
      have hcode : type.code = c := Primitive.ofCode?_eq_some_iff.1 htype
      exact ⟨.code type, by rw [chars, hcode]; rfl, rfl⟩

/-- A text has at most one base at its start. -/
theorem append_inj {a b : BaseToken} {rest rest' : List Char}
    (h : a.chars ++ rest = b.chars ++ rest') : a = b ∧ rest = rest' := by
  have hcode : ∀ type : Primitive, type.code ≠ 'L' := by
    intro type
    cases type <;> decide
  -- No code is an `L`, so the first character says whether a class name follows.
  cases a with
  | code type =>
    cases b with
    | code type' =>
      obtain ⟨hsame, hrest⟩ := List.cons.inj h
      have htype : Primitive.ofCode? type.code = some type' := by
        rw [hsame, Primitive.ofCode?_code]
      rw [Primitive.ofCode?_code, Option.some.injEq] at htype
      exact ⟨congrArg code htype, hrest⟩
    | object name => exact absurd (List.cons.inj h).1 (hcode type)
  | object name =>
    cases b with
    | code type' => exact absurd (List.cons.inj h).1.symm (hcode type')
    | object name' =>
      obtain ⟨text, hne, hend⟩ := name
      obtain ⟨text', hne', hend'⟩ := name'
      have hsame : text.toList ++ ';' :: rest = text'.toList ++ ';' :: rest' := by
        simpa [chars] using h
      have hcut : Text.cutFirst? [';'] (text.toList ++ ';' :: rest) =
          some (text'.toList, rest') := by
        rw [hsame, Text.cutFirst?_append_cons hend']
      rw [Text.cutFirst?_append_cons hend, Option.some.injEq, Prod.mk.injEq] at hcut
      obtain rfl : text = text' := String.toList_inj.1 hcut.1
      exact ⟨rfl, hcut.2⟩

end BaseToken

namespace TypeToken

theorem takeWhile_chars_append (token : TypeToken) (rest : List Char) :
    (token.chars ++ rest).takeWhile (· == '[') = List.replicate token.depth '[' := by
  obtain ⟨c, cs, hbase, hc⟩ := token.base.exists_chars_eq_cons
  rw [chars, List.append_assoc, List.takeWhile_append_of_pos
    fun _ hmem => by simp [List.eq_of_mem_replicate hmem]]
  simp [hbase, hc]

theorem dropWhile_chars_append (token : TypeToken) (rest : List Char) :
    (token.chars ++ rest).dropWhile (· == '[') = token.base.chars ++ rest := by
  obtain ⟨c, cs, hbase, hc⟩ := token.base.exists_chars_eq_cons
  rw [chars, List.append_assoc, List.dropWhile_append_of_pos
    fun _ hmem => by simp [List.eq_of_mem_replicate hmem]]
  simp [hbase, hc]

theorem next_chars_append (token : TypeToken) (rest : List Char) :
    TypeRef.next (token.chars ++ rest) = .ok (token.type, rest) := by
  rw [TypeRef.next, takeWhile_chars_append, dropWhile_chars_append,
    token.base.next_chars_append, List.length_replicate]
  rfl

/-- What is read as a type is a token with the rest behind it. -/
theorem exists_of_next {cs rest : List Char} {type : TypeRef}
    (h : TypeRef.next cs = .ok (type, rest)) :
    ∃ token : TypeToken, token.chars ++ rest = cs ∧ token.type = type := by
  unfold TypeRef.next at h
  obtain ⟨⟨base, rest'⟩, hbase, htype⟩ := map_eq_ok_iff.1 h
  cases htype
  obtain ⟨token, hchars, rfl⟩ := BaseToken.exists_of_next hbase
  have hbrackets : cs.takeWhile (· == '[') =
      List.replicate (cs.takeWhile (· == '[')).length '[' := by
    refine List.eq_replicate_iff.2 ⟨rfl, fun c hc => ?_⟩
    exact eq_of_beq (List.mem_takeWhile_imp (p := (· == '[')) hc)
  refine ⟨⟨_, token⟩, ?_, rfl⟩
  rw [chars, List.append_assoc, hchars, ← hbrackets, List.takeWhile_append_dropWhile]

/-- A text has at most one type at its start. -/
theorem append_inj {a b : TypeToken} {rest rest' : List Char}
    (h : a.chars ++ rest = b.chars ++ rest') : a = b ∧ rest = rest' := by
  have hdepth := congrArg (List.takeWhile (· == '[')) h
  have hbase := congrArg (List.dropWhile (· == '[')) h
  rw [takeWhile_chars_append, takeWhile_chars_append] at hdepth
  rw [dropWhile_chars_append, dropWhile_chars_append] at hbase
  obtain ⟨depth, base⟩ := a
  obtain ⟨depth', base'⟩ := b
  have hsame : depth = depth' := by simpa using congrArg List.length hdepth
  obtain ⟨rfl, hrest⟩ := BaseToken.append_inj hbase
  exact ⟨by rw [hsame], hrest⟩

theorem chars_ne_nil (token : TypeToken) : token.chars ≠ [] := by
  intro hnil
  have hnext := token.next_chars_append []
  rw [hnil] at hnext
  cases hnext

end TypeToken

/-! ## Rows of tokens -/

theorem TypeRef.readAll_of_next {cs rest : List Char} {type : TypeRef}
    (h : next cs = .ok (type, rest)) : readAll cs = (readAll rest).map (type :: ·) := by
  cases cs with
  | nil => cases h
  | cons c cs =>
    rw [readAll]
    split
    · next hread =>
      rw [h] at hread
      cases hread
    · next hread =>
      rw [h] at hread
      cases hread
      rfl

namespace TypeToken

theorem readAll_flatten_chars (tokens : List TypeToken) :
    TypeRef.readAll (tokens.map chars).flatten = .ok (tokens.map type) := by
  induction tokens with
  | nil =>
    rw [List.map_nil, List.flatten_nil, TypeRef.readAll]
    rfl
  | cons token tokens ih =>
    rw [List.map_cons, List.flatten_cons, TypeRef.readAll_of_next (token.next_chars_append _), ih]
    rfl

theorem exists_of_readAll {cs : List Char} {types : List TypeRef}
    (h : TypeRef.readAll cs = .ok types) :
    ∃ tokens : List TypeToken, (tokens.map chars).flatten = cs ∧ tokens.map type = types := by
  -- The induction goes along the reader: each type it takes off the text is a token.
  fun_induction TypeRef.readAll cs generalizing types with
  | case1 =>
    cases h
    exact ⟨[], rfl, rfl⟩
  | case2 c cs cause hnext => cases h
  | case3 c cs type rest hnext ih =>
    obtain ⟨types', hrest, rfl⟩ := map_eq_ok_iff.1 h
    obtain ⟨token, htoken, rfl⟩ := exists_of_next hnext
    obtain ⟨tokens, htokens, rfl⟩ := ih hrest
    refine ⟨token :: tokens, ?_, rfl⟩
    rw [List.map_cons, List.flatten_cons, htokens, htoken]

theorem readAll_eq_ok_iff {cs : List Char} {types : List TypeRef} :
    TypeRef.readAll cs = .ok types ↔
      ∃ tokens : List TypeToken, (tokens.map chars).flatten = cs ∧ tokens.map type = types := by
  constructor
  · exact exists_of_readAll
  · rintro ⟨tokens, rfl, rfl⟩
    exact readAll_flatten_chars tokens

theorem readOne_eq_ok_iff {cs : List Char} {type : TypeRef} :
    TypeRef.readOne cs = .ok type ↔ ∃ token : TypeToken, token.chars = cs ∧ token.type = type := by
  constructor
  · intro h
    unfold TypeRef.readOne at h
    split at h
    · cases h
    · next hnext =>
      cases h
      obtain ⟨token, hchars, htype⟩ := exists_of_next hnext
      exact ⟨token, by rw [← hchars, List.append_nil], htype⟩
    · cases h
  · rintro ⟨token, rfl, rfl⟩
    have hnext := token.next_chars_append []
    rw [List.append_nil] at hnext
    rw [TypeRef.readOne, hnext]

theorem flatten_chars_injective {ts us : List TypeToken}
    (h : (ts.map chars).flatten = (us.map chars).flatten) : ts = us := by
  -- The first token is told from what follows it, so the tokens come off one by one.
  induction ts generalizing us with
  | nil =>
    cases us with
    | nil => rfl
    | cons u us => exact absurd (List.append_eq_nil_iff.1 h.symm).1 u.chars_ne_nil
  | cons t ts ih =>
    cases us with
    | nil => exact absurd (List.append_eq_nil_iff.1 h).1 t.chars_ne_nil
    | cons u us =>
      obtain ⟨rfl, hrest⟩ := append_inj h
      rw [ih hrest]

theorem chars_injective {a b : TypeToken} (h : a.chars = b.chars) : a = b := by
  have hnil : a.chars ++ [] = b.chars ++ [] := by rw [h]
  exact (append_inj hnil).1

theorem row_injective : Function.Injective row := by
  intro ts us h
  apply flatten_chars_injective
  rw [← toList_row, ← toList_row, h]

theorem text_injective : Function.Injective text := by
  intro a b h
  apply chars_injective
  rw [← toList_text, ← toList_text, h]

theorem read_eq_ok_iff_token {descriptor : String} {type : TypeRef} :
    TypeRef.read descriptor = .ok type ↔
      ∃ token : TypeToken, token.text = descriptor ∧ token.type = type := by
  rw [TypeRef.read, mapError_eq_ok_iff, readOne_eq_ok_iff]
  simp only [← String.toList_inj, toList_text]

theorem readList_eq_ok_iff {body : String} {types : List TypeRef} :
    TypeRef.readList body = .ok types ↔
      ∃ tokens : List TypeToken, row tokens = body ∧ tokens.map type = types := by
  rw [TypeRef.readList, mapError_eq_ok_iff, readAll_eq_ok_iff]
  simp only [← String.toList_inj, toList_row]

end TypeToken

/-! ## Method descriptors -/

namespace Signature

/-- A method descriptor by its tokens. The first closing parenthesis ends the parameters, so none
stands in them. -/
structure Spelling where
  params : List TypeToken
  result : TypeToken
  parenthesis : ∀ token ∈ params, ')' ∉ token.text.toList

namespace Spelling

def text (spelling : Spelling) : String :=
  "(" ++ TypeToken.row spelling.params ++ ")" ++ spelling.result.text

def tokens (spelling : Spelling) : List TypeToken :=
  spelling.params ++ [spelling.result]

/-- The names of the types that the descriptor stands for. -/
def signature (spelling : Spelling) : Signature where
  params := spelling.params.map TypeToken.name
  result := spelling.result.name

theorem toList_text (spelling : Spelling) :
    spelling.text.toList =
      '(' :: ((TypeToken.row spelling.params).toList ++ ')' :: spelling.result.chars) := by
  simp [text]

theorem parenthesis_not_mem_row (spelling : Spelling) :
    ')' ∉ (TypeToken.row spelling.params).toList := by
  rw [TypeToken.toList_row]
  intro hmem
  obtain ⟨chars, hchars, hparenthesis⟩ := List.mem_flatten.1 hmem
  obtain ⟨token, htoken, rfl⟩ := List.mem_map.1 hchars
  refine spelling.parenthesis token htoken ?_
  rwa [TypeToken.toList_text]

theorem cutFirst?_tail_text (spelling : Spelling) :
    Text.cutFirst? [')'] spelling.text.toList.tail =
      some ((TypeToken.row spelling.params).toList, spelling.result.chars) := by
  rw [toList_text]
  exact Text.cutFirst?_append_cons spelling.parenthesis_not_mem_row _

theorem text_injective : Function.Injective text := by
  intro a b h
  have hcut := a.cutFirst?_tail_text
  rw [h, b.cutFirst?_tail_text, Option.some.injEq, Prod.mk.injEq] at hcut
  have hparams : b.params = a.params := TypeToken.row_injective (String.toList_inj.1 hcut.1)
  have hresult : b.result = a.result := TypeToken.chars_injective hcut.2
  obtain ⟨params, result, hparenthesis⟩ := a
  obtain ⟨params', result', hparenthesis'⟩ := b
  obtain rfl : params' = params := hparams
  obtain rfl : result' = result := hresult
  rfl

theorem read_text (spelling : Spelling) : read spelling.text = .ok spelling.signature := by
  have hparams : TypeRef.readList (TypeToken.row spelling.params) =
      .ok (spelling.params.map TypeToken.type) :=
    TypeToken.readList_eq_ok_iff.2 ⟨_, rfl, rfl⟩
  have hresult : TypeRef.read (String.ofList spelling.result.chars) = .ok spelling.result.type :=
    TypeToken.read_eq_ok_iff_token.2 ⟨_, rfl, rfl⟩
  have hcut := spelling.cutFirst?_tail_text
  rw [toList_text, List.tail_cons] at hcut
  rw [read, toList_text]
  simp only [hcut, String.ofList_toList, hparams, hresult, bind, Except.bind, pure, Except.pure,
    TypeToken.map_name_type, TypeToken.name_type, signature]

theorem exists_of_read {descriptor : String} {signature : Signature}
    (h : read descriptor = .ok signature) :
    ∃ spelling : Spelling, spelling.text = descriptor ∧ spelling.signature = signature := by
  unfold read at h
  split at h
  · next cs hcs =>
    split at h
    · cases h
    · next body rest hcut =>
      obtain ⟨rfl, hparenthesis⟩ := Text.cutFirst?_char_eq_some_iff.1 hcut
      obtain ⟨params, hparams, h⟩ := bind_eq_ok_iff.1 h
      obtain ⟨result, hresult, h⟩ := bind_eq_ok_iff.1 h
      cases h
      obtain ⟨tokens, hrow, rfl⟩ := TypeToken.readList_eq_ok_iff.1 hparams
      obtain ⟨token, htoken, rfl⟩ := TypeToken.read_eq_ok_iff_token.1 hresult
      have hbody : (tokens.map TypeToken.chars).flatten = body := by
        rw [← TypeToken.toList_row, hrow, String.toList_ofList]
      have hplain : ∀ other ∈ tokens, ')' ∉ other.text.toList := by
        intro other hother hmem
        rw [TypeToken.toList_text] at hmem
        apply hparenthesis
        rw [← hbody]
        exact List.mem_flatten.2 ⟨_, List.mem_map.2 ⟨other, hother, rfl⟩, hmem⟩
      refine ⟨⟨tokens, token, hplain⟩, String.toList_inj.1 ?_, ?_⟩
      · rw [toList_text, hcs, hrow, String.toList_ofList, ← TypeToken.toList_text, htoken,
          String.toList_ofList]
      · rw [Spelling.signature, TypeToken.map_name_type, TypeToken.name_type]
  · cases h

end Spelling

/-- A text is read as a signature if and only if it is a method descriptor with the types of the
signature, and there is one way to take it apart into tokens. The same holds of rows of types. The
reader of a row comes to an end on every text, since no text has types at its start without end. -/
theorem read_eq_ok_iff_spelled :
    (∀ descriptor signature, read descriptor = .ok signature ↔
      ∃ spelling : Spelling, spelling.text = descriptor ∧ spelling.signature = signature) ∧
    Function.Injective Spelling.text ∧
    (∀ body names, (TypeRef.readList body).map (·.map TypeRef.name) = .ok names ↔
      ∃ tokens, TypeToken.row tokens = body ∧ tokens.map TypeToken.name = names) ∧
    Function.Injective TypeToken.row ∧
    WellFounded fun rest cs => ∃ type, TypeRef.next cs = .ok (type, rest) := by
  refine ⟨?_, Spelling.text_injective, ?_, TypeToken.row_injective, ?_⟩
  · intro descriptor signature
    constructor
    · exact Spelling.exists_of_read
    · rintro ⟨spelling, rfl, rfl⟩
      exact spelling.read_text
  · intro body names
    rw [map_eq_ok_iff]
    simp only [TypeToken.readList_eq_ok_iff]
    constructor
    · rintro ⟨types, ⟨tokens, hrow, rfl⟩, rfl⟩
      exact ⟨tokens, hrow, (TypeToken.map_name_type tokens).symm⟩
    · rintro ⟨tokens, hrow, rfl⟩
      exact ⟨_, ⟨tokens, hrow, rfl⟩, TypeToken.map_name_type tokens⟩
  · refine Subrelation.wf ?_ (measure List.length).wf
    rintro rest cs ⟨type, hnext⟩
    exact TypeRef.length_lt_of_next hnext

end Signature

end NameCarry
