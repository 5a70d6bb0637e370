import AuthKeyspace.Cql.DataType
import AuthKeyspace.Text.Quoted

/-!
# Types described from outside

A type can also be described as a tree whose leaves are words, by someone who has not checked the
words nor whether a tuple has elements. `TypeExpr.toDataType` makes a type of it or names the first
fault, reading the parts of a type from left to right before the type itself. Legality of nesting is
not asked for here: the tree may hold what no statement can declare.
-/

namespace AuthKeyspace.Cql

/-- A description of a type that may be wrong. -/
inductive TypeExpr
  | scalar (word : String)
  | set (element : TypeExpr)
  | list (element : TypeExpr)
  | map (key value : TypeExpr)
  | tuple (elements : List TypeExpr)
  | frozen (inner : TypeExpr)
deriving Repr

/-- Why a description is of no type. -/
inductive TypeExprFault
  | unknownWord (word : String)
  | emptyTuple
deriving DecidableEq, Repr

/-- What is said of a description that is of no type. -/
def TypeExprFault.message : TypeExprFault → String
  | .unknownWord w => Text.quoted w ++ " is not a valid NativeType"
  | .emptyTuple => "A tuple type needs at least one element."

namespace TypeExpr

mutual
/-- The type that is described. -/
def toDataType : TypeExpr → Except TypeExprFault DataType
  | .scalar w =>
    match ScalarType.ofWord? w with
    | some s => .ok (.scalar s)
    | none => .error (.unknownWord w)
  | .set e => return .set (← toDataType e)
  | .list e => return .list (← toDataType e)
  | .map k v => do
    let key ← toDataType k
    let value ← toDataType v
    return .map key value
  | .tuple es => do
    match ← toDataTypes es with
    | [] => .error .emptyTuple
    | first :: rest => return .tuple first rest
  | .frozen e => return .frozen (← toDataType e)
/-- The types that a list describes. -/
def toDataTypes : List TypeExpr → Except TypeExprFault (List DataType)
  | [] => .ok []
  | e :: es => do
    let t ← toDataType e
    let ts ← toDataTypes es
    return t :: ts
end

end TypeExpr

end AuthKeyspace.Cql
