/-!
# Column types

A column holds a scalar, a collection of other types, a tuple or a frozen value. Scalars go by
words; `varchar` is a second word for `text`, and the type keeps no trace of which was written. Some
types cannot be formed: a set, list or map does not hold a set, list or map directly, because cells
inside cells cannot be addressed, and freezing a scalar means nothing.

`TypeConstructor.apply` forms a type from its arguments or says why it cannot; `DataType.cql` writes
a type; equality of types is decidable (`DataType.beq_eq_true_iff`).

Every type is written, however deep it is. That the stack of the one who asks for the text may end
before a very deep type does is left out.
-/

namespace AuthKeyspace.Cql

/-- What one cell can hold. -/
inductive ScalarType
  | ascii | bigint | blob | boolean | date | decimal | double | float | inet | int | smallint | text
  | time | timestamp | timeuuid | tinyint | uuid | varint
deriving DecidableEq, Repr

namespace ScalarType

/-- The word a scalar is written with. -/
def word : ScalarType → String
  | .ascii => "ascii" | .bigint => "bigint" | .blob => "blob" | .boolean => "boolean"
  | .date => "date" | .decimal => "decimal" | .double => "double" | .float => "float"
  | .inet => "inet" | .int => "int" | .smallint => "smallint" | .text => "text" | .time => "time"
  | .timestamp => "timestamp" | .timeuuid => "timeuuid" | .tinyint => "tinyint" | .uuid => "uuid"
  | .varint => "varint"

/-- Every word that names a scalar, in alphabetical order. -/
def words : List (String × ScalarType) :=
  [("ascii", .ascii), ("bigint", .bigint), ("blob", .blob), ("boolean", .boolean), ("date", .date),
   ("decimal", .decimal), ("double", .double), ("float", .float), ("inet", .inet), ("int", .int),
   ("smallint", .smallint), ("text", .text), ("time", .time), ("timestamp", .timestamp),
   ("timeuuid", .timeuuid), ("tinyint", .tinyint), ("uuid", .uuid), ("varchar", .text),
   ("varint", .varint)]

/-- The scalar that a word names. -/
def ofWord? (w : String) : Option ScalarType := words.lookup w

theorem ofWord?_word (s : ScalarType) : ofWord? s.word = some s := by
  cases s <;> rfl

theorem word_injective {s t : ScalarType} (h : s.word = t.word) : s = t := by
  have : ofWord? s.word = ofWord? t.word := by rw [h]
  simpa only [ofWord?_word, Option.some.injEq] using this

end ScalarType

/-- The type of a column. A tuple has a first element, so it is never empty. -/
inductive DataType
  | scalar (scalar : ScalarType)
  | set (element : DataType)
  | list (element : DataType)
  | map (key value : DataType)
  | tuple (first : DataType) (rest : List DataType)
  | frozen (inner : DataType)
deriving Repr

namespace DataType

/-! ## Writing a type -/

mutual
/-- A type as it is written. -/
def cql : DataType → String
  | .scalar s => s.word
  | .set e => "set<" ++ e.cql ++ ">"
  | .list e => "list<" ++ e.cql ++ ">"
  | .map k v => "map<" ++ k.cql ++ ", " ++ v.cql ++ ">"
  | .tuple t ts => "tuple<" ++ t.cql ++ cqlRest ts ++ ">"
  | .frozen t => "frozen<" ++ t.cql ++ ">"
/-- The further elements of a tuple, each after a comma. -/
def cqlRest : List DataType → String
  | [] => ""
  | t :: ts => ", " ++ t.cql ++ cqlRest ts
end

/-- Is the type kept in cells of its own? Such a value cannot be compared as a whole, so it is no
part of a key. -/
def isMultiCell : DataType → Bool
  | .set _ | .list _ | .map _ _ => true
  | _ => false

/-! ## Equality -/

mutual
/-- Are two types the same? -/
def beq : DataType → DataType → Bool
  | .scalar s, .scalar t => s == t
  | .set a, .set b => beq a b
  | .list a, .list b => beq a b
  | .map k v, .map k' v' => beq k k' && beq v v'
  | .tuple a as, .tuple b bs => beq a b && beqRest as bs
  | .frozen a, .frozen b => beq a b
  | _, _ => false
/-- Are two lists of types the same? -/
def beqRest : List DataType → List DataType → Bool
  | [], [] => true
  | a :: as, b :: bs => beq a b && beqRest as bs
  | _, _ => false
end

mutual
theorem eq_of_beq : ∀ {a b : DataType}, beq a b = true → a = b
  | .scalar s, b, h => by cases b <;> simp_all [beq]
  | .set a, b, h => by cases b <;> simp_all [beq]; exact eq_of_beq h
  | .list a, b, h => by cases b <;> simp_all [beq]; exact eq_of_beq h
  | .map k v, b, h => by
    cases b <;> simp_all [beq]
    exact ⟨eq_of_beq h.1, eq_of_beq h.2⟩
  | .tuple a as, b, h => by
    cases b <;> simp_all [beq]
    exact ⟨eq_of_beq h.1, eq_of_beqRest h.2⟩
  | .frozen a, b, h => by cases b <;> simp_all [beq]; exact eq_of_beq h
theorem eq_of_beqRest : ∀ {as bs : List DataType}, beqRest as bs = true → as = bs
  | [], bs, h => by cases bs <;> simp_all [beqRest]
  | a :: as, bs, h => by
    cases bs <;> simp_all [beqRest]
    exact ⟨eq_of_beq h.1, eq_of_beqRest h.2⟩
end

mutual
theorem beq_self : ∀ a : DataType, beq a a = true
  | .scalar s => by simp [beq]
  | .set a => by simp [beq, beq_self a]
  | .list a => by simp [beq, beq_self a]
  | .map k v => by simp [beq, beq_self k, beq_self v]
  | .tuple a as => by simp [beq, beq_self a, beqRest_self as]
  | .frozen a => by simp [beq, beq_self a]
theorem beqRest_self : ∀ as : List DataType, beqRest as as = true
  | [] => by simp [beqRest]
  | a :: as => by simp [beqRest, beq_self a, beqRest_self as]
end

theorem beq_eq_true_iff {a b : DataType} : beq a b = true ↔ a = b :=
  ⟨eq_of_beq, fun h => h ▸ beq_self a⟩

instance : DecidableEq DataType := fun _ _ => decidable_of_iff _ beq_eq_true_iff

end DataType

/-! ## Forming a type -/

/-- What takes types as arguments. -/
inductive TypeConstructor
  | set | list | map | tuple | frozen
deriving DecidableEq, Repr

/-- Why arguments do not form a type. -/
inductive TypeFault
  /-- The constructor takes another number of arguments. -/
  | arity (constructor : TypeConstructor) (given : Nat)
  /-- A scalar is frozen already. -/
  | frozenScalar (scalar : ScalarType)
  /-- A collection would hold a collection that is not frozen. -/
  | nestedCollection (constructor : TypeConstructor)
deriving DecidableEq, Repr

namespace TypeConstructor

/-- The word a constructor is written with. -/
def word : TypeConstructor → String
  | .set => "set" | .list => "list" | .map => "map" | .tuple => "tuple" | .frozen => "frozen"

/-- The constructor that a word names. -/
def ofWord? : String → Option TypeConstructor
  | "set" => some .set
  | "list" => some .list
  | "map" => some .map
  | "tuple" => some .tuple
  | "frozen" => some .frozen
  | _ => none

/-- How many arguments a constructor takes; a tuple takes any number above zero. -/
def arity : TypeConstructor → Nat
  | .map => 2
  | _ => 1

/-- Form a type from the arguments, of which there is at least one. -/
def apply : TypeConstructor → DataType → List DataType → Except TypeFault DataType
  | .tuple, first, rest => .ok (.tuple first rest)
  | .frozen, .scalar s, [] => .error (.frozenScalar s)
  | .frozen, inner, [] => .ok (.frozen inner)
  | .set, element, [] =>
    if element.isMultiCell then .error (.nestedCollection .set) else .ok (.set element)
  | .list, element, [] =>
    if element.isMultiCell then .error (.nestedCollection .list) else .ok (.list element)
  | .map, key, [value] =>
    if key.isMultiCell || value.isMultiCell then .error (.nestedCollection .map)
    else .ok (.map key value)
  | c, _, rest => .error (.arity c (rest.length + 1))

end TypeConstructor

/-- What is said of arguments that form no type. -/
def TypeFault.message : TypeFault → String
  | .arity c given =>
    "Type " ++ c.word ++ " expects " ++ toString c.arity ++ " parameter(s), got " ++ toString given
  | .frozenScalar s => "frozen<> cannot wrap native type " ++ s.word
  | .nestedCollection c => "Non-frozen collections are not allowed inside " ++ c.word ++ "<>"

end AuthKeyspace.Cql
