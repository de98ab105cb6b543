import Typings.Model.ImportPath
import Typings.Source.Line
import Typings.Source.Literal
import Typings.Source.Primitive
import Typings.Source.TypeText

/-!
# Reading a model from its source

A file is read line by line. If its first header is one of an enumeration, every line of the file
is read again for members. Otherwise class headers give the base type and property lines give the
properties, in the order of declaration.
-/

namespace Typings

open Source Text

/-- What makes a source unreadable, with the file's name and the line. -/
inductive SourceError where
  /-- A declaration opens its body on its own line. -/
  | inlineBrace (file line : Text)
  /-- The value stated for a member is no integer literal. -/
  | memberValue (file line literal : Text)
  deriving DecidableEq

namespace SourceError

/-- The name of the file. -/
def file : SourceError → Text
  | inlineBrace file _ | memberValue file _ _ => file

/-- The line as it stands in the file. -/
def line : SourceError → Text
  | inlineBrace _ line | memberValue _ line _ => line

/-- Where the error is: the file on one line, then the source line in quotation marks. -/
def location (file line : Text) : Text :=
  "in ".toList ++ file ++ ".cs\n\"".toList ++ line ++ ['"']

/-- The sentence that reports the error. -/
def message : SourceError → Text
  | inlineBrace file line =>
    "For parsing, C# models must put the opening brace on the next line\n".toList
      ++ location file line
  | memberValue file line literal =>
    "Invalid enum value ".toList ++ quoted literal ++ ' ' :: location file line

end SourceError

/-- What reading a model depends on besides its source. -/
structure ReadContext where
  imports : ImportPaths
  types : TypeMapping := {}

namespace Model

/-- A declared type that is no dictionary, resolved from a folder. -/
def readReference (ctx : ReadContext) (folder declared : Text) : TypeReference :=
  let name := cleanType declared
  match ctx.imports.find? name folder with
  | none => { type := ctx.types.target name, isArray := isArray declared }
  | some path =>
    { type := name, isUserDefined := true, importPath := some path, isArray := isArray declared }

/-- The key and value types of a declared dictionary; arguments that are missing are empty. -/
def readContainer (ctx : ReadContext) (folder declared : Text) : Container :=
  match typeArguments (withoutMarks declared) with
  | key :: value :: _ => ⟨readReference ctx folder key, readReference ctx folder value⟩
  | [key] => ⟨readReference ctx folder key, readReference ctx folder []⟩
  | [] => ⟨readReference ctx folder [], readReference ctx folder []⟩

/-- The type that stands for every dictionary. -/
def dictionaryType : Text := "Record".toList

/-- A property of the given declared type. -/
def readTyped (ctx : ReadContext) (folder declared name : Text) : Property :=
  if isDictionary declared then
    { name, type := dictionaryType, isOptional := isOptional declared
      container := some (readContainer ctx folder declared) }
  else
    let r := readReference ctx folder declared
    { name, type := r.type, isArray := r.isArray, isOptional := isOptional declared
      isUserDefined := r.isUserDefined, importPath := r.importPath }

/-- A name without the semicolon that ends its declaration. -/
def withoutSemicolon (name : Text) : Text :=
  if name.getLast? = some ';' then name.dropLast else name

/-- The property that a property line declares: its first two tokens are type and name. -/
def readProperty (ctx : ReadContext) (folder : Text) : List Text → Option Property
  | declared :: name :: _ => some (readTyped ctx folder declared (withoutSemicolon name))
  | _ => none

/-- The part of a text before its first comma. -/
def beforeComma (t : Text) : Text := t.takeWhile (· != ',')

/-- The base type that a class header names: its last token up to a comma, unless that token has
the name of an interface. -/
def baseType (tokens : List Text) : Option Text :=
  match tokens.getLast? with
  | none => none
  | some candidate =>
    let base := beforeComma candidate
    if isInterfaceName candidate || base.isEmpty || base = [':'] then none else some base

/-- What a line contributes to the properties of a record. A header with a base type contributes a
placeholder, so that a record that only inherits is not empty. -/
def lineProperties (ctx : ReadContext) (folder : Text) (line : Line) : List Property :=
  match line.kind with
  | .classHeader => (baseType line.tokens).toList.map fun _ => .placeholder
  | .property => (readProperty ctx folder line.tokens).toList
  | _ => []

/-- The base type that a line names. -/
def lineBase (line : Line) : Option Text :=
  if line.kind = .classHeader then baseType line.tokens else none

/-- The record that a source declares; the last header with a base type counts. -/
def readRecord (ctx : ReadContext) (source : SourceFile) : Model :=
  let lines := source.lines.map Line.classify
  let inherits := (lines.filterMap lineBase).getLast?
  { name := source.name
    folder := source.folder
    inherits
    inheritsFrom := inherits.bind fun base => ctx.imports.find? base source.folder
    body := .record (lines.flatMap (lineProperties ctx source.folder)) }

/-- The name of the member that the tokens of a line declare. -/
def memberName (tokens : List Text) : Text := beforeComma (tokens.head?.getD [])

/-- The literal that the tokens of a line state after an equals sign, without commas. -/
def memberLiteral? : List Text → Option Text
  | _ :: ['='] :: rest => some ((rest.head?.getD []).filter (· != ','))
  | _ => none

/-- The member that a line of an enumeration declares, if it declares one. -/
def readMember (file raw : Text) : Except SourceError (Option Member) :=
  let line := Line.classifyMember raw
  let name := memberName line.tokens
  if line.kind ≠ .enumerator || name.isEmpty then .ok none
  else match memberLiteral? line.tokens with
    | none => .ok (some { name })
    | some literal =>
      match readLiteral literal with
      | .ok value => .ok (some { name, value := .stated (some value) })
      | .error _ => .error (.memberValue file raw literal)

/-- The members that the lines of an enumeration declare, up to the first one that is in error. -/
def readMembers (file : Text) : List Text → Except SourceError (List Member)
  | [] => .ok []
  | raw :: rest =>
    match readMember file raw with
    | .error e => .error e
    | .ok member =>
      match readMembers file rest with
      | .error e => .error e
      | .ok members => .ok (member.toList ++ members)

/-- The underlying type that the header of an enumeration names after its first colon. -/
def underlyingType (header : Text) : Option Text :=
  given (some (trim ((header.dropWhile (· != ':')).drop 1)))

/-- The enumeration that a source declares under the given header. -/
def readEnumeration (source : SourceFile) (header : Line) : Except SourceError Model :=
  match readMembers source.name source.lines with
  | .error e => .error e
  | .ok members => .ok
    { name := source.name
      folder := source.folder
      body := .enumeration (underlyingType header.text) members }

/-- Whether a raw line decides how the whole file is read. -/
def isDecisive (raw : Text) : Bool :=
  let kind := (Line.classify raw).kind
  kind == .malformedDeclaration || kind == .enumHeader

/-- Reads the model that a source declares. The first line that is a header of an enumeration or
a malformed declaration decides; without one the source is a record. -/
def read (ctx : ReadContext) (source : SourceFile) : Except SourceError Model :=
  match source.lines.find? isDecisive with
  | none => .ok (readRecord ctx source)
  | some raw =>
    let line := Line.classify raw
    if line.kind = .enumHeader then readEnumeration source line
    else .error (.inlineBrace source.name raw)

end Model

end Typings
