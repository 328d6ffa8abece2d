import ResourceQuery.Number.Integer
import ResourceQuery.Query.Attribute

namespace ResourceQuery

/-- The engine's own id. It is text and can only be tested for equality. -/
def documentIdField : String := "_id"

/-- The id that the data store gave, an integer. -/
def databaseIdField : String := "databaseId"

def identifierName : String := "id"

/-- The name with its first letter in lower case, if that is an ASCII letter. -/
def normalizeName (name : String) : String :=
  match name.toList with
  | c :: cs => String.ofList (c.toLower :: cs)
  | [] => ""

theorem toList_normalizeName (name : String) :
    (normalizeName name).toList = name.toList.modifyHead Char.toLower := by
  unfold normalizeName
  cases name.toList with
  | nil => rfl
  | cons c cs => rw [String.toList_ofList, List.modifyHead_cons]

/-- Declared as an identifier, or named like one. -/
def Attribute.isIdentifier (a : Attribute) : Bool :=
  a.type == .identifier || normalizeName a.name == identifierName

def isInteger (s : String) : Bool :=
  (Number.parseInteger? s.toList).isSome

/-- The identity that the literals mean: the integer one if there are literals and all are integers. -/
def identifierField (literals : List String) : String :=
  if !literals.isEmpty && literals.all isInteger then databaseIdField else documentIdField

/-- The field that holds the attribute, when it is compared with the literals. -/
def Attribute.targetField (a : Attribute) (literals : List String) : String :=
  if a.isIdentifier then identifierField literals else normalizeName a.name

end ResourceQuery
