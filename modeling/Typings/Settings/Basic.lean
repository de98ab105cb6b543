import Typings.Declaration
import Typings.Json.Basic

/-!
# Settings

The settings of a conversion, put together from layers of values by key. The first layer that has
a key decides about it, and a key that no layer has keeps its default. Only the two styles are
checked here; the other values are kept as they were given.
-/

namespace Typings

open Text

/-- What a conversion is set to. -/
structure Settings where
  /-- A working directory. -/
  workingDirectory : Json := .null
  /-- More working directories, with semicolons between them. -/
  workingDirectories : Json := .null
  /-- The ending of the names of source files. -/
  sourceExtension : Json := .text ".cs".toList
  /-- The output directory, cleared in every run. -/
  convertDirectory : Json := .null
  /-- Whether generated files say so at their top. -/
  autoGeneratedTag : Json := .bool true
  enumValues : EnumValues := .numeric
  pathStyle : PathStyle := .default

/-- The name of a mode of enumeration values. -/
def EnumValues.name : EnumValues → Text
  | numeric => "numeric".toList
  | string => "string".toList

/-- The name of a path style. -/
def PathStyle.name : PathStyle → Text
  | default => "default".toList
  | kebab => "kebab".toList

namespace Settings

/-- Why values do not make up settings. -/
inductive Error where
  /-- Keys that no setting has, in code point order. -/
  | unknownKeys (keys : List RawText)
  | enumValues (value : Json)
  | pathStyle (value : Json)

/-- The sentence that reports the error. Only keys come into it as they are, with surrogates. -/
def Error.message : Error → RawText
  | unknownKeys keys =>
    RawText.ofText "Unknown configuration keys: ".toList
      ++ joinWith (RawText.ofText ", ".toList) keys
  | enumValues value => RawText.ofText ("Invalid enum_values: ".toList ++ value.shown
    ++ " (expected 'numeric' or 'string')".toList)
  | pathStyle value => RawText.ofText ("Invalid path_style: ".toList ++ value.shown
    ++ " (expected 'default' or 'kebab')".toList)

/-- The accepted spellings of the modes of enumeration values. -/
def enumSpellings : List (Text × EnumValues) :=
  [("numeric".toList, .numeric), ("numbers".toList, .numeric), ("number".toList, .numeric),
   ("string".toList, .string), ("strings".toList, .string)]

/-- The accepted spellings of the path styles. -/
def pathSpellings : List (Text × PathStyle) :=
  [("default".toList, .default), ("kebab".toList, .kebab), ("kebab-case".toList, .kebab),
   ("kebabcase".toList, .kebab)]

/-- Whether a value leaves a choice open: it is null or the empty string. -/
def isOpen : Json → Bool
  | .null => true
  | .string s => s.isEmpty
  | _ => false

/-- The choice that a value spells, in any case and with blanks around it. -/
def choice? {α : Type} (spellings : List (Text × α)) (value : Json) : Option α :=
  (RawText.text? value.plain).bind fun t => spellings.lookup (lower (trim t))

/-- Reads a mode of enumeration values. -/
def readEnumValues (value : Json) : Except Error EnumValues :=
  if isOpen value then .ok .numeric
  else match choice? enumSpellings value with
    | some mode => .ok mode
    | none => .error (.enumValues value)

/-- Reads a path style. -/
def readPathStyle (value : Json) : Except Error PathStyle :=
  if isOpen value then .ok .default
  else match choice? pathSpellings value with
    | some style => .ok style
    | none => .error (.pathStyle value)

/-- The names of the settings in files. -/
inductive Key where
  | workingDirectory
  | workingDirectories
  | sourceExtension
  | convertDirectory
  | autoGeneratedTag
  | enumValues
  | pathStyle
  deriving DecidableEq, Repr

/-- The spelling of a key. -/
def Key.text : Key → Text
  | workingDirectory => "working_directory".toList
  | workingDirectories => "working_directories".toList
  | sourceExtension => "source_extension".toList
  | convertDirectory => "convert_directory".toList
  | autoGeneratedTag => "auto_generated_tag".toList
  | enumValues => "enum_values".toList
  | pathStyle => "path_style".toList

/-- The spelling of a key as files have it. -/
def Key.raw (key : Key) : RawText := RawText.ofText key.text

/-- The keys in the order in which they are written. -/
def Key.all : List Key :=
  [workingDirectory, workingDirectories, sourceExtension, convertDirectory, autoGeneratedTag,
   enumValues, pathStyle]

/-- The value of a setting. -/
def value (s : Settings) : Key → Json
  | .workingDirectory => s.workingDirectory
  | .workingDirectories => s.workingDirectories
  | .sourceExtension => s.sourceExtension
  | .convertDirectory => s.convertDirectory
  | .autoGeneratedTag => s.autoGeneratedTag
  | .enumValues => .text s.enumValues.name
  | .pathStyle => .text s.pathStyle.name

/-- Values by key. -/
abbrev Layer := List (RawText × Json)

/-- A layer without the keys that it sets to null. -/
def Layer.given (layer : Layer) : Layer :=
  layer.filter fun
    | (_, .null) => false
    | _ => true

/-- The value of a key under layers: the first one that has the key decides, and then the
default. -/
def layered (layers : List Layer) (key : Key) : Json :=
  (layers.findSome? (·.lookup key.raw)).getD (({} : Settings).value key)

/-- The keys of layers that are the key of no setting, each once and in code point order. -/
def unknownKeys (layers : List Layer) : List RawText :=
  (((layers.flatMap fun layer => layer.map (·.1)).filter
    fun key => !(Key.all.map Key.raw).contains key).eraseDups).mergeSort RawText.le

/-- The settings that layers make up. -/
def ofLayers (layers : List Layer) : Except Error Settings :=
  match unknownKeys layers with
  | key :: keys => .error (.unknownKeys (key :: keys))
  | [] =>
    match readEnumValues (layered layers .enumValues) with
    | .error e => .error e
    | .ok enumValues =>
      match readPathStyle (layered layers .pathStyle) with
      | .error e => .error e
      | .ok pathStyle => .ok
        { workingDirectory := layered layers .workingDirectory
          workingDirectories := layered layers .workingDirectories
          sourceExtension := layered layers .sourceExtension
          convertDirectory := layered layers .convertDirectory
          autoGeneratedTag := layered layers .autoGeneratedTag
          enumValues
          pathStyle }

/-- The settings as one object. -/
def toJson (s : Settings) : Json := .object (Key.all.map fun key => (key.raw, s.value key))

/-- Whether two settings are equal. -/
def same (s t : Settings) : Bool := Key.all.all fun key => (s.value key).same (t.value key)

/-- The source extension, if it is a string. -/
def extension? (s : Settings) : Option RawText :=
  match s.sourceExtension with
  | .string extension => some extension
  | _ => none

/-- The working directories as they are listed, without blanks around them; blank items do not
count. -/
def directoryItems (s : Settings) : List RawText :=
  let listed := s.workingDirectory.plainOrEmpty ++ .char ';' :: s.workingDirectories.plainOrEmpty
  ((splitOn (.char ';') listed).map RawText.trim).filter fun item => !item.isEmpty

/-- What looks wrong about settings. There is no answer for a source extension that is no string. -/
def warnings? (s : Settings) : Option (List RawText) :=
  s.extension?.map fun extension =>
    (if extension.head? = some (.char '.') then []
      else [RawText.ofText "source_extension should start with '.': ".toList ++ extension])
    ++ (if s.convertDirectory.isGiven then []
      else [RawText.ofText ("No convert_directory set - output goes to the current ".toList
        ++ "directory and is not cleared between runs".toList)])
    ++ (if s.directoryItems.Nodup then []
      else [RawText.ofText "The same working directory is listed more than once".toList])

/-- What writes declarations under these settings. -/
def generator (s : Settings) : Generator :=
  { tagged := s.autoGeneratedTag.isGiven, enumValues := s.enumValues, style := s.pathStyle }

end Settings

end Typings
