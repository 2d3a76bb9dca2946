import NameCarry.Descriptor.Primitive
import NameCarry.Text.Dotted

/-!
# Type references

A type reference is a primitive type or a class, under some number of array dimensions. It has two
written forms: the type name of source text (`int[][]`, `java.lang.String`) puts a pair of brackets
behind the base for each dimension, and the type descriptor (`[[I`, `Ljava/lang/String;`) puts an
opening bracket before it. A class is named with dots in the first form and with slashes in the
second.
-/

namespace NameCarry

/-- What an array type holds in its innermost dimension. -/
inductive BaseType where
  /-- A primitive type. -/
  | primitive (type : Primitive)
  /-- A class, by its dotted name. -/
  | object (name : String)
  deriving DecidableEq, Repr

/-- A type as it is used in a declaration. -/
structure TypeRef where
  /-- The number of array dimensions. -/
  depth : Nat
  /-- The type under the array dimensions. -/
  base : BaseType
  deriving DecidableEq, Repr

/-- Takes the bracket pairs off a reversed type name, counting them on from `depth`. -/
def stripPairs (depth : Nat) : List Char → List Char × Nat
  | ']' :: '[' :: rest => stripPairs (depth + 1) rest
  | rest => (rest, depth)

/-- A type name without the pairs of brackets at its end, and the number of those pairs. -/
def splitDimensions (name : String) : String × Nat :=
  let (reversed, depth) := stripPairs 0 name.toList.reverse
  (String.ofList reversed.reverse, depth)

/-- A type name with `depth` pairs of brackets behind it. -/
def withDimensions (base : String) (depth : Nat) : String :=
  String.ofList (base.toList ++ (List.replicate depth ['[', ']']).flatten)

/-- The pairs that are counted are the ones that are taken off. -/
theorem stripPairs_eq (depth : Nat) (cs : List Char) :
    ∃ n, (stripPairs depth cs).2 = depth + n ∧
      cs = (List.replicate n [']', '[']).flatten ++ (stripPairs depth cs).1 := by
  fun_induction stripPairs depth cs with
  | case1 depth rest ih =>
    obtain ⟨n, hn, hrest⟩ := ih
    refine ⟨n + 1, by omega, ?_⟩
    rw [List.replicate_succ, List.flatten_cons, List.append_assoc, ← hrest]
    rfl
  | case2 depth rest => exact ⟨0, rfl, rfl⟩

/-- Nothing is lost when the dimensions of a type are split off. -/
@[simp]
theorem withDimensions_splitDimensions (name : String) :
    withDimensions (splitDimensions name).1 (splitDimensions name).2 = name := by
  obtain ⟨n, hn, hname⟩ := stripPairs_eq 0 name.toList.reverse
  apply String.toList_inj.1
  have h := congrArg List.reverse hname
  simp only [List.reverse_reverse, List.reverse_append, List.reverse_flatten,
    List.map_replicate, List.reverse_replicate] at h
  simp only [withDimensions, splitDimensions, String.toList_ofList, hn, Nat.zero_add]
  exact h.symm

namespace BaseType

/-- The base type with the given name: a primitive if it is the name of one, else a class. -/
def ofName (name : String) : BaseType :=
  match Primitive.ofName? name with
  | some type => primitive type
  | none => object name

/-- The name of the base type in source text. -/
def name : BaseType → String
  | primitive type => type.name
  | object name => name

/-- The descriptor of the base type: a code, or the slashed name between `L` and `;`. -/
def descriptor : BaseType → List Char
  | primitive type => [type.code]
  | object name => 'L' :: name.toList.map Text.slashForDot ++ [';']

end BaseType

namespace TypeRef

/-- The type with the given name. Every text is the name of a type. -/
def ofName (name : String) : TypeRef :=
  let (base, depth) := splitDimensions name
  { depth, base := BaseType.ofName base }

/-- The name of the type in source text. -/
def name (type : TypeRef) : String :=
  withDimensions type.base.name type.depth

/-- The descriptor of the type, as characters. -/
def descriptorChars (type : TypeRef) : List Char :=
  List.replicate type.depth '[' ++ type.base.descriptor

/-- The descriptor of the type. -/
def descriptor (type : TypeRef) : String :=
  String.ofList type.descriptorChars

end TypeRef

end NameCarry
