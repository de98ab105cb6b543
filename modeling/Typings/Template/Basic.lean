import Typings.Naming

/-!
# Templates

A template is text with slots for values, conditional parts and repeated parts. Rendering fills the
slots from named values; a name without value leaves nothing.
-/

namespace Typings

open Text

/-- A value that a template is rendered with. -/
inductive Template.Value where
  /-- A name that has no value. -/
  | missing
  /-- The value of something that is known to be absent. -/
  | absent
  | flag (b : Bool)
  | text (t : Text)
  /-- Something that is no text. It is shown by its description, and refused where a text is asked
  for. -/
  | builtIn (description refusal : Text)
  | items (values : List Template.Value)
  | record (fields : List (Text × Template.Value))

/-- A part of a template. Values are named by a path of names, from the outside in. -/
inductive Template.Part where
  | plain (t : Text)
  /-- A value, in camel case if asked for. -/
  | slot (path : List Text) (camel : Bool)
  /-- A value that no name can change, in camel case if asked for. -/
  | fixed (v : Template.Value) (camel : Bool)
  /-- Parts that appear if a value is neither missing, absent, false nor empty. -/
  | whenTrue (path : List Text) (body : List Template.Part)
  /-- Parts that appear unless a value is absent. -/
  | whenPresent (path : List Text) (body : List Template.Part)
  /-- Parts that appear once for every item of a value, under the name `item`. -/
  | forEach (item : Text) (path : List Text) (body : List Template.Part)

/-- A template is the list of its parts. -/
abbrev Template := List Template.Part

namespace Template

/-- The value of a name. -/
def Value.field (fields : List (Text × Value)) (name : Text) : Value :=
  (fields.lookup name).getD .missing

/-- The value inside a record; other values have nothing inside. -/
def Value.inside : Value → List Text → Value
  | v, [] => v
  | .record fields, name :: rest => (Value.field fields name).inside rest
  | _, _ :: _ => .missing

/-- The value of a path of names. -/
def Value.at (fields : List (Text × Value)) (path : List Text) : Value :=
  (Value.record fields).inside path

/-- Whether a condition on the value holds. -/
def Value.isTrue : Value → Bool
  | .missing | .absent => false
  | .flag b => b
  | .text t => !t.isEmpty
  | .builtIn .. => true
  | .items values => !values.isEmpty
  | .record fields => !fields.isEmpty

/-- Whether the value is anything other than absent. -/
def Value.isPresent : Value → Bool
  | .absent => false
  | _ => true

/-- What a slot shows; lists and records are never shown. -/
def Value.shown : Value → Text
  | .missing | .items _ | .record _ => []
  | .absent => "None".toList
  | .flag b => if b then "True".toList else "False".toList
  | .text t => t
  | .builtIn description _ => description

/-- What a slot in camel case shows. -/
def Value.shownCamel : Value → Text
  | .text t => camelCase t
  | v => v.shown

/-- Why a value has no camel case. -/
def Value.refusal? : Value → Option Text
  | .flag true => some "'bool' object is not subscriptable".toList
  | .builtIn _ refusal => some refusal
  | _ => none

/-- What a repeated part runs through: the items of a list, the characters of a text. -/
def Value.elements : Value → List Value
  | .items values => values
  | .text t => t.map fun c => .text [c]
  | _ => []

mutual

/-- The text of one part. -/
def Part.render (fields : List (Text × Value)) : Part → Text
  | .plain t => t
  | .slot path camel =>
    let v := Value.at fields path
    if camel then v.shownCamel else v.shown
  | .fixed v camel => if camel then v.shownCamel else v.shown
  | .whenTrue path body => if (Value.at fields path).isTrue then renderAll fields body else []
  | .whenPresent path body =>
    if (Value.at fields path).isPresent then renderAll fields body else []
  | .forEach item path body =>
    (Value.at fields path).elements.flatMap fun v => renderAll ((item, v) :: fields) body

/-- The text of the parts, one after the other. -/
def renderAll (fields : List (Text × Value)) : List Part → Text
  | [] => []
  | part :: rest => part.render fields ++ renderAll fields rest

end

/-- The text of a template filled with named values. -/
def render (template : Template) (fields : List (Text × Value)) : Text :=
  renderAll fields template

mutual

/-- The first refusal of a value by one part. -/
def Part.refusal? (fields : List (Text × Value)) : Part → Option Text
  | .plain _ => none
  | .slot path camel => if camel then (Value.at fields path).refusal? else none
  | .fixed v camel => if camel then v.refusal? else none
  | .whenTrue path body => if (Value.at fields path).isTrue then firstRefusal? fields body else none
  | .whenPresent path body =>
    if (Value.at fields path).isPresent then firstRefusal? fields body else none
  | .forEach item path body =>
    (Value.at fields path).elements.findSome? fun v => firstRefusal? ((item, v) :: fields) body

/-- The first refusal of a value by parts, one after the other. -/
def firstRefusal? (fields : List (Text × Value)) : List Part → Option Text
  | [] => none
  | part :: rest => part.refusal? fields <|> firstRefusal? fields rest

end

end Template

end Typings
