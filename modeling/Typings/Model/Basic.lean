import Typings.Path

/-!
# Models

A discovered source file, and the model that is read from it: an enumeration with its members or a
record with its properties.
-/

namespace Typings

/-- A discovered source file. -/
structure SourceFile where
  /-- The identity of the model: the file's base name in Pascal case. -/
  name : Text
  /-- The folder of the file below its root, with slashes between the segments. -/
  folder : Text
  path : Path
  root : Path
  lines : List Text := []
  deriving DecidableEq

/-- A type with what is known about where it is declared. -/
structure TypeReference where
  type : Text
  isUserDefined : Bool := false
  importPath : Option Text := none
  isArray : Bool := false
  deriving DecidableEq

/-- A type name, with the array suffix if the type is an array. -/
def arrayText (type : Text) (isArray : Bool) : Text :=
  if isArray then type ++ ['[', ']'] else type

/-- How the target spells the type. -/
def TypeReference.text (r : TypeReference) : Text := arrayText r.type r.isArray

/-- The key and value types of a dictionary. -/
structure Container where
  key : TypeReference
  value : TypeReference
  deriving DecidableEq

/-- Both types, the key first. -/
def Container.references (c : Container) : List TypeReference := [c.key, c.value]

/-- A property of a record. One without a name is not rendered. -/
structure Property where
  name : Text
  type : Text := []
  isArray : Bool := false
  isOptional : Bool := false
  isUserDefined : Bool := false
  importPath : Option Text := none
  container : Option Container := none
  deriving DecidableEq

/-- The nameless entry of a record that inherits. -/
def Property.placeholder : Property := { name := [] }

/-- Whether the property is left out of the declaration. -/
def Property.isPlaceholder (p : Property) : Bool := p.name.isEmpty

/-- How the value of a member comes about. -/
inductive MemberValue where
  /-- The member follows the one before it. -/
  | automatic
  /-- The member states its value. -/
  | stated (value : Option Int)
  deriving DecidableEq

/-- A member of an enumeration. -/
structure Member where
  name : Text
  value : MemberValue := .automatic
  deriving DecidableEq

/-- What a model declares. -/
inductive Model.Body where
  | enumeration (underlying : Option Text) (members : List Member)
  | record (properties : List Property)
  deriving DecidableEq

/-- What is read from one source file. -/
structure Model where
  name : Text
  folder : Text
  /-- The base type. -/
  inherits : Option Text := none
  /-- Where the base type is imported from. -/
  inheritsFrom : Option Text := none
  body : Model.Body
  deriving DecidableEq

namespace Model

/-- A text that is there and not empty. -/
def given (t : Option Text) : Option Text := t.filter fun t => !t.isEmpty

/-- Why parts do not make up a model. -/
inductive ShapeError where
  | enumWithProperties (name : Text)
  | recordWithMembers (name : Text)
  deriving DecidableEq

/-- The sentence that reports the error. -/
def ShapeError.message : ShapeError → Text
  | enumWithProperties name => "Enum model '".toList ++ name ++ "' cannot have properties".toList
  | recordWithMembers name => "Record model '".toList ++ name ++ "' cannot have enum entries".toList

/-- The body that members and properties make up: one kind of them has to be absent. -/
def Body.ofParts (name : Text) (isEnum : Bool) (underlying : Option Text) (members : List Member)
    (properties : List Property) : Except ShapeError Body :=
  if isEnum then
    if properties.isEmpty then .ok (.enumeration underlying members)
    else .error (.enumWithProperties name)
  else if members.isEmpty then .ok (.record properties)
  else .error (.recordWithMembers name)

/-- Whether the model is an enumeration. -/
def isEnum (m : Model) : Bool :=
  match m.body with
  | .enumeration .. => true
  | .record .. => false

/-- The members of an enumeration, none for a record. -/
def members (m : Model) : List Member :=
  match m.body with
  | .enumeration _ members => members
  | .record _ => []

/-- The properties of a record, placeholders included; none for an enumeration. -/
def properties (m : Model) : List Property :=
  match m.body with
  | .enumeration .. => []
  | .record properties => properties

/-- The properties that are rendered. -/
def fields (m : Model) : List Property := m.properties.filter fun p => !p.isPlaceholder

/-- What looks wrong about a model: it is empty, or its base type is not known. -/
def warnings (m : Model) : List Text :=
  let empty := match m.body with
    | .enumeration _ [] => ["Enum '".toList ++ m.name ++ "' has no entries".toList]
    | .record [] => ["Model '".toList ++ m.name ++ "' has no properties".toList]
    | _ => []
  let unknownBase := match given m.inherits, given m.inheritsFrom with
    | some base, none =>
      ["Base type '".toList ++ base ++ "' of '".toList ++ m.name
        ++ "' is not a known model".toList]
    | _, _ => []
  empty ++ unknownBase

end Model

end Typings
