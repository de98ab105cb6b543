import Typings.Binary64
import Typings.Text.Quoted

/-!
# JSON values

The values of configuration files. Objects keep their members in the order in which the keys first
appeared.
-/

namespace Typings

open Text

/-- A JSON value. Numbers without fraction and exponent are integers of any size. -/
inductive Json where
  | null
  | bool (b : Bool)
  | int (i : Int)
  | real (r : Binary64)
  | string (s : RawText)
  | array (items : List Json)
  | object (members : List (RawText × Json))

namespace Json

/-- A text as a JSON string. -/
def text (t : Text) : Json := .string (RawText.ofText t)

/-- The text that a value is, if it is a string without surrogates. -/
def text? : Json → Option Text
  | string s => RawText.text? s
  | _ => none

/-- Whether the value counts as given: not null, not false, not zero and not empty. -/
def isGiven : Json → Bool
  | null => false
  | bool b => b
  | int i => i != 0
  | real r => !r.isZero
  | string s => !s.isEmpty
  | array items => !items.isEmpty
  | object members => !members.isEmpty

mutual

/-- How messages show a value: strings in quotes, and the other values spelled as in the messages of
this library. -/
def shown : Json → Text
  | null => "None".toList
  | bool b => if b then "True".toList else "False".toList
  | int i => ofInt i
  | real r => r.text
  | string s => quotedRaw s
  | array items => '[' :: joinWith ", ".toList (shownItems items) ++ [']']
  | object members => '\x7b' :: joinWith ", ".toList (shownMembers members) ++ ['\x7d']

/-- The items of an array, each as messages show it. -/
def shownItems : List Json → List Text
  | [] => []
  | v :: rest => shown v :: shownItems rest

/-- The members of an object, each as messages show it. -/
def shownMembers : List (RawText × Json) → List Text
  | [] => []
  | (key, v) :: rest => (quotedRaw key ++ ": ".toList ++ shown v) :: shownMembers rest

end

/-- The value as plain text: a string as it is, all else as messages show it. -/
def plain : Json → RawText
  | string s => s
  | v => RawText.ofText (shown v)

/-- The plain text of a value that is given, empty for one that is not. -/
def plainOrEmpty (v : Json) : RawText := if v.isGiven then v.plain else []

/-- The name of the kind of a value in messages. -/
def kindName : Json → Text
  | null => "NoneType".toList
  | bool _ => "bool".toList
  | int _ => "int".toList
  | real _ => "float".toList
  | string _ => "str".toList
  | array _ => "list".toList
  | object _ => "dict".toList

mutual

/-- Whether two values are equal. -/
def same : Json → Json → Bool
  | null, null => true
  | bool a, bool b => a == b
  | int a, int b => a == b
  | real a, real b => a == b
  | string a, string b => a == b
  | array a, array b => sameItems a b
  | object a, object b => a.length == b.length && sameMembers a b
  | _, _ => false

/-- Whether two lists are equal, item by item. -/
def sameItems : List Json → List Json → Bool
  | [], [] => true
  | a :: x, b :: y => same a b && sameItems x y
  | _, _ => false

/-- Whether two objects have equal members in the same order. -/
def sameMembers : List (RawText × Json) → List (RawText × Json) → Bool
  | [], [] => true
  | (k, a) :: x, (l, b) :: y => k == l && same a b && sameMembers x y
  | _, _ => false

end

mutual

/-- Whether every string of a value is a text. -/
def isEncodable : Json → Bool
  | string s => (RawText.text? s).isSome
  | array items => areItemsEncodable items
  | object members => areMembersEncodable members
  | _ => true

/-- Whether every string of the items is a text. -/
def areItemsEncodable : List Json → Bool
  | [] => true
  | v :: rest => isEncodable v && areItemsEncodable rest

/-- Whether every string of the members is a text, their keys included. -/
def areMembersEncodable : List (RawText × Json) → Bool
  | [] => true
  | (key, v) :: rest =>
    (RawText.text? key).isSome && isEncodable v && areMembersEncodable rest

end

/-- Members with the value of a key set, in place if the key was there. -/
def setMember (key : RawText) (value : Json) : List (RawText × Json) → List (RawText × Json)
  | [] => [(key, value)]
  | (k, v) :: rest => if k = key then (key, value) :: rest else (k, v) :: setMember key value rest

end Json

end Typings
