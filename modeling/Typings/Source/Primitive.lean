import Typings.Text.Blank

/-!
# Primitive types

The source types with a counterpart among the target's primitive types. A name outside the table
becomes `any`, unless it is given a target of its own.
-/

namespace Typings.Source

open Text

/-- The primitive types of the target. -/
inductive Primitive where
  | number
  | boolean
  | string
  | date
  | unknown
  deriving DecidableEq, Repr

/-- How the target spells a primitive type. -/
def Primitive.spelling : Primitive → Text
  | number => "number".toList
  | boolean => "boolean".toList
  | string => "string".toList
  | date => "Date".toList
  | unknown => "any".toList

/-- Source types that are numbers: first the keywords, then the names of the framework. -/
def numericTypes : List Text :=
  ["byte".toList, "sbyte".toList, "short".toList, "ushort".toList, "int".toList, "uint".toList,
   "long".toList, "ulong".toList, "nint".toList, "nuint".toList, "float".toList, "double".toList,
   "decimal".toList,
   "Byte".toList, "SByte".toList, "Int16".toList, "UInt16".toList, "Int32".toList, "UInt32".toList,
   "Int64".toList, "UInt64".toList, "Single".toList, "Double".toList, "Decimal".toList]

/-- Source types that are truth values. -/
def booleanTypes : List Text := ["bool".toList, "Boolean".toList]

/-- Source types that are texts. -/
def stringTypes : List Text :=
  ["char".toList, "string".toList, "Char".toList, "String".toList, "Guid".toList]

/-- Source types that are points in time. -/
def dateTypes : List Text := ["DateTime".toList, "DateTimeOffset".toList]

/-- The primitive type of a name; blanks around the name do not count. -/
def Primitive.ofName (name : Text) : Primitive :=
  let name := trim name
  if numericTypes.contains name then .number
  else if booleanTypes.contains name then .boolean
  else if stringTypes.contains name then .string
  else if dateTypes.contains name then .date
  else .unknown

/-- Names with a target of their own, which are asked before the table of primitive types. -/
structure TypeMapping where
  overrides : List (Text × Text) := []

/-- The target type of a bare type name. -/
def TypeMapping.target (m : TypeMapping) (name : Text) : Text :=
  match m.overrides.lookup (trim name) with
  | some target => target
  | none => (Primitive.ofName name).spelling

end Typings.Source
