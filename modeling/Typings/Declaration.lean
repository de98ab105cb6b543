import Typings.Model.Basic
import Typings.Template.Engine

/-!
# Declarations

A model is written as one declaration file: an enumeration as an `enum`, a record as an `interface`
below the imports it needs. Both are rendered from templates.
-/

namespace Typings

open Text Template

/-- How the members of an enumeration get their values. -/
inductive EnumValues where
  /-- Stated values are kept, and the target counts on from them. -/
  | numeric
  /-- Every member is its own name. -/
  | string
  deriving DecidableEq, Repr

/-- A name and the path it is imported from. -/
structure Import where
  name : Text
  path : Text
  deriving DecidableEq

/-- The distinct members of a list in the order of their first appearance. -/
def firstUses {α : Type} [DecidableEq α] (xs : List α) : List α :=
  xs.foldl (fun seen x => if x ∈ seen then seen else seen ++ [x]) []

namespace Model

/-- The import that a type name needs, if a path is known. -/
def importOf (name : Text) (path : Option Text) : Option Import :=
  (given path).map fun path => ⟨name, path⟩

/-- The imports that a property needs: its own type, then key and value of a dictionary. -/
def propertyImports (p : Property) : List Import :=
  (if p.isUserDefined then (importOf p.type p.importPath).toList else [])
    ++ ((p.container.map Container.references).getD []).filterMap fun r =>
      if r.isUserDefined then importOf r.type r.importPath else none

/-- The imports of a record in the order of their first use: the base type, then the types of the
properties. An enumeration needs none. -/
def imports (m : Model) : List Import :=
  match m.body with
  | .enumeration .. => []
  | .record properties =>
    firstUses (((given m.inherits).bind (importOf · m.inheritsFrom)).toList
      ++ properties.flatMap propertyImports)

end Model

/-- The type of a property as the target writes it. -/
def Property.text (p : Property) : Text :=
  match p.container with
  | some c => "Partial<Record<".toList ++ c.key.text ++ ", ".toList ++ c.value.text ++ ">>".toList
  | none => arrayText p.type p.isArray

namespace Declaration

/-- The name of the template for enumerations. -/
def enumTemplateName : Text := "enum.ts.j2".toList

/-- The name of the template for records. -/
def interfaceTemplateName : Text := "interface.ts.j2".toList

/-- The comment at the top of a file, if the file is to be tagged. -/
def tag : Part :=
  .whenTrue ["auto_generated_tag".toList] [.plain "/* Auto Generated */\n\n".toList]

/-- The template for enumerations. -/
def enumTemplate : Template :=
  [tag,
   .plain "export enum ".toList, .slot ["name".toList] false, .plain " \x7b\n".toList,
   .forEach "entry".toList ["entries".toList]
    [.plain "    ".toList, .slot ["entry".toList, "name".toList] true,
     .whenPresent ["entry".toList, "value".toList]
      [.plain " = ".toList, .slot ["entry".toList, "value".toList] false],
     .plain ",\n".toList],
   .plain "\x7d\n".toList]

/-- The template for records. -/
def interfaceTemplate : Template :=
  [tag,
   .forEach "statement".toList ["imports".toList]
    [.plain "import \x7b ".toList, .slot ["statement".toList, "name".toList] false,
     .plain " \x7d from \"".toList, .slot ["statement".toList, "path".toList] false,
     .plain "\";\n".toList],
   .whenTrue ["imports".toList] [.plain "\n".toList],
   .plain "export interface ".toList, .slot ["name".toList] false,
   .whenTrue ["extends".toList] [.plain " extends ".toList, .slot ["extends".toList] false],
   .plain " \x7b\n".toList,
   .forEach "field".toList ["fields".toList]
    [.plain "    ".toList, .slot ["field".toList, "name".toList] true,
     .whenTrue ["field".toList, "optional".toList] [.plain "?".toList],
     .plain ": ".toList, .slot ["field".toList, "type".toList] false,
     .plain ";\n".toList],
   .plain "\x7d\n".toList]

/-- The engine with the templates that come with the library. -/
def engine : TemplateEngine :=
  { shipped := true
    templates :=
      [(enumTemplateName, .ok enumTemplate), (interfaceTemplateName, .ok interfaceTemplate)] }

/-- The value that a member is written with, if it is written with one. -/
def memberValue (mode : EnumValues) (m : Member) : Value :=
  match mode, m.value with
  | .string, _ => .text (apostrophe :: camelCase m.name ++ [apostrophe])
  | .numeric, .automatic => .absent
  | .numeric, .stated none => .text "None".toList
  | .numeric, .stated (some n) => .text (ofInt n)
where
  apostrophe : Char := '\x27'

/-- The values for the template of an enumeration; members without a name are left out. -/
def enumFields (tagged : Bool) (mode : EnumValues) (m : Model) : List (Text × Value) :=
  let entry := fun (member : Member) =>
    Value.record [("name".toList, .text member.name), ("value".toList, memberValue mode member)]
  [("auto_generated_tag".toList, .flag tagged), ("name".toList, .text m.name),
   ("entries".toList, .items ((m.members.filter fun e => !e.name.isEmpty).map entry))]

/-- The values for the template of a record. -/
def interfaceFields (tagged : Bool) (m : Model) : List (Text × Value) :=
  let statement := fun (i : Import) =>
    Value.record [("name".toList, .text i.name), ("path".toList, .text i.path)]
  let field := fun (p : Property) =>
    Value.record [("name".toList, .text p.name), ("optional".toList, .flag p.isOptional),
      ("type".toList, .text p.text)]
  [("auto_generated_tag".toList, .flag tagged), ("name".toList, .text m.name),
   ("extends".toList, (m.inherits.map Value.text).getD .absent),
   ("imports".toList, .items (m.imports.map statement)),
   ("fields".toList, .items (m.fields.map field))]

end Declaration

/-- What writes declarations: its templates and the choices that the settings leave. -/
structure Generator where
  engine : TemplateEngine := Declaration.engine
  tagged : Bool := true
  enumValues : EnumValues := .numeric
  style : PathStyle := .default

namespace Generator

/-- Why a model cannot be written. -/
inductive Error where
  | missingTemplate (name : Text)
  /-- The template was found but cannot be read. -/
  | faultyTemplate (fault : Template.Fault)
  | notRendered (error : TemplateEngine.Error)
  deriving DecidableEq

/-- The sentence that reports the error. -/
def Error.message : Error → Text
  | missingTemplate name => name ++ " template not found".toList
  | faultyTemplate fault => fault.message
  | notRendered error => error.message

/-- The extension of declaration files. -/
def extension : Text := ".ts".toList

/-- Fills the template of a name, after a look whether it is there. -/
def render (g : Generator) (name : Text) (fields : List (Text × Value)) : Except Error Text :=
  match g.engine.exists? name with
  | .error fault => .error (.faultyTemplate fault)
  | .ok false => .error (.missingTemplate name)
  | .ok true => (g.engine.render name fields).mapError .notRendered

/-- The declaration file of a model. -/
def generate (g : Generator) (m : Model) : Except Error Text :=
  match m.body with
  | .enumeration .. =>
    g.render Declaration.enumTemplateName (Declaration.enumFields g.tagged g.enumValues m)
  | .record _ => g.render Declaration.interfaceTemplateName (Declaration.interfaceFields g.tagged m)

/-- Where the declaration file of a model goes below an output root. -/
def outputPath (g : Generator) (root : Path) (m : Model) : Path :=
  let below := (Path.ofText (g.style.directory m.folder)).segments
  let folder : Path := ⟨root.root, root.segments ++ below⟩
  folder.join (Path.ofText (g.style.fileStem m.name ++ extension))

end Generator

end Typings
