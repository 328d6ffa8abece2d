import ResourceQuery.Text.Blank

namespace ResourceQuery

inductive DeclaredType where
  | bool
  | int8
  | int16
  | int32
  | int64
  | uint8
  | uint16
  | uint32
  | uint64
  | float32
  | float64
  | decimal
  | string
  | dateTime
  | identifier
  | object
  | collection
  deriving DecidableEq, Repr

namespace DeclaredType

def all : List DeclaredType :=
  [bool, int8, int16, int32, int64, uint8, uint16, uint32, uint64, float32, float64, decimal, string,
   dateTime, identifier, object, collection]

def name : DeclaredType → String
  | bool => "Bool"
  | int8 => "Int8"
  | int16 => "Int16"
  | int32 => "Int32"
  | int64 => "Int64"
  | uint8 => "UInt8"
  | uint16 => "UInt16"
  | uint32 => "UInt32"
  | uint64 => "UInt64"
  | float32 => "Float32"
  | float64 => "Float64"
  | decimal => "Decimal"
  | string => "String"
  | dateTime => "DateTime"
  | identifier => "Identifier"
  | object => "Object"
  | collection => "Collection"

end DeclaredType

structure Attribute where
  name : String
  type : DeclaredType
  deriving DecidableEq, Repr

/-- More than one attribute means that relationships are followed. -/
abbrev FieldPath := List Attribute

def FieldPath.dotted (path : FieldPath) : String :=
  Text.joinWith "." (path.map Attribute.name)

end ResourceQuery
