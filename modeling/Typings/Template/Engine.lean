import Typings.Template.Read

/-!
# Template engines

An engine keeps templates by their names: those that come with the library, or those that were
added. Some names have a value in every template unless they are given another one.
-/

namespace Typings

open Text

namespace Template

/-- The names that have a value unless they are given another one. -/
def builtIns : List (Text × Value) :=
  [("range".toList, .builtIn "<class 'range'>".toList "type 'range' is not subscriptable".toList),
   ("dict".toList,
    .builtIn "<class 'dict'>".toList "type object 'dict' has no attribute 'islower'".toList),
   ("cycler".toList,
    .builtIn "<class 'jinja2.utils.Cycler'>".toList "type 'Cycler' is not subscriptable".toList),
   ("joiner".toList,
    .builtIn "<class 'jinja2.utils.Joiner'>".toList "type 'Joiner' is not subscriptable".toList),
   ("namespace".toList,
    .builtIn "<class 'jinja2.utils.Namespace'>".toList
      "type 'Namespace' is not subscriptable".toList)]

/-- What a template of a name is for itself. -/
def selfValue (name : Text) : Value :=
  .builtIn ("<TemplateReference ".toList ++ quoted name ++ ['>']) ['0']

end Template

/-- The templates of the declarations, by their names. -/
structure TemplateEngine where
  /-- Whether the templates are the ones that come with the library. -/
  shipped : Bool := false
  templates : List (Text × Except Template.Fault Template) := []

namespace TemplateEngine

/-- Why rendering fails. -/
inductive Error where
  | unknownTemplate (name : Text)
  | malformed (name : Text) (fault : Template.Fault)
  /-- A value is given under the name that the template has for itself. -/
  | selfGiven (name : Text)
  | refused (name refusal : Text)
  deriving DecidableEq

/-- The template that was to be rendered, and why it cannot be. -/
def Error.parts : Error → Text × Text
  | unknownTemplate name => (name, name)
  | malformed name fault => (name, fault.message)
  | selfGiven name => (name, "Template.render() got multiple values for argument 'self'".toList)
  | refused name refusal => (name, refusal)

/-- The sentence that reports the error. -/
def Error.message (e : Error) : Text :=
  "Failed to render template ".toList ++ e.parts.1 ++ ": ".toList ++ e.parts.2

/-- The name under which a template that comes with the library is kept: repeated slashes and
single dots do not count, and double dots lead nowhere. -/
def shippedName? (name : Text) : Option Text :=
  let segments := splitOn '/' name
  if segments.contains ['.', '.'] then none
  else some (joinWith ['/'] (segments.filter fun s => s != [] && s != ['.']))

/-- The template of a name, if there is one. -/
def find? (e : TemplateEngine) (name : Text) : Option (Except Template.Fault Template) :=
  if e.shipped then (shippedName? name).bind fun name => e.templates.lookup name
  else e.templates.lookup name

/-- Whether there is a template of a name; a faulty one is an error. -/
def exists? (e : TemplateEngine) (name : Text) : Except Template.Fault Bool :=
  match e.find? name with
  | none => .ok false
  | some (.ok _) => .ok true
  | some (.error fault) => .error fault

/-- The engine after a template was added. The first one added replaces all those that come with
the library, and later ones replace those of the same name. -/
def add (e : TemplateEngine) (name content : Text) : TemplateEngine :=
  let kept := if e.shipped then [] else e.templates.filter fun t => t.1 != name
  { shipped := false, templates := (name, Template.ofText content) :: kept }

/-- Renders a template under its name. -/
def renderAs (name : Text) (template : Template) (fields : List (Text × Template.Value)) :
    Except Error Text :=
  if (fields.lookup Template.selfName).isSome then .error (.selfGiven name)
  else
    let known := (Template.selfName, Template.selfValue name) :: fields ++ Template.builtIns
    match Template.firstRefusal? known template with
    | some refusal => .error (.refused name refusal)
    | none => .ok (template.render known)

/-- Renders the template of a name. -/
def render (e : TemplateEngine) (name : Text) (fields : List (Text × Template.Value)) :
    Except Error Text :=
  match e.find? name with
  | none => .error (.unknownTemplate name)
  | some (.error fault) => .error (.malformed name fault)
  | some (.ok template) => renderAs name template fields

end TemplateEngine

end Typings
