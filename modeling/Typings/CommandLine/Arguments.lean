import Typings.Settings.File
import Typings.Text.Digit

/-!
# Command line arguments

The arguments of the command line are read in two rounds. First every argument gets a role on its
own: it is plain, an option, or looks like an option and is none. Then the roles are worked off
from left to right. Plain arguments name directories, but only one run of them may.

Options may be cut short as long as they stay unambiguous, carry a value behind an equals sign, and
share one hyphen if they have one letter.
-/

namespace Typings.CommandLine

open Text

/-- The options. -/
inductive Opt where
  | help
  | version
  | workingDirectory
  | workingDirectories
  | sourceExtension
  | output
  | noHeader
  | enumValues
  | pathStyle
  | config
  | verbose
  | logFile
  deriving DecidableEq, Repr

/-- Whether an option has a value. -/
def Opt.takesValue : Opt → Bool
  | help | version | noHeader | verbose => false
  | _ => true

/-- The values that an option may have, if not all texts are. -/
def Opt.choices? : Opt → Option (List Text)
  | enumValues => some ["numeric".toList, "string".toList]
  | pathStyle => some ["default".toList, "kebab".toList, "kebab-case".toList]
  | _ => none

/-- How the options are spelled in full. -/
def spellings : List (Text × Opt) :=
  [("-h".toList, .help), ("--help".toList, .help), ("--version".toList, .version),
   ("--working-directory".toList, .workingDirectory),
   ("--working-directories".toList, .workingDirectories),
   ("--source-extension".toList, .sourceExtension), ("--output".toList, .output),
   ("-o".toList, .output), ("--no-header".toList, .noHeader),
   ("--enum-values".toList, .enumValues), ("--path-style".toList, .pathStyle),
   ("--config".toList, .config), ("--verbose".toList, .verbose), ("-v".toList, .verbose),
   ("--log-file".toList, .logFile)]

/-- Why reading the arguments ends the program. -/
inductive Stop where
  | help
  | version
  /-- The arguments are not understood. -/
  | usage
  deriving DecidableEq, Repr

/-- What the arguments say. -/
structure Arguments where
  roots : List Text := []
  workingDirectory : Option Text := none
  workingDirectories : Option Text := none
  sourceExtension : Option Text := none
  output : Option Text := none
  noHeader : Bool := false
  enumValues : Option Text := none
  pathStyle : Option Text := none
  config : Option Text := none
  verbose : Bool := false
  logFile : Option Text := none
  deriving DecidableEq

/-- What an argument is on its own. -/
inductive Role where
  | plain
  /-- The mark after which all arguments are plain. -/
  | separator
  /-- An option and the text attached to it; `isShort` tells whether it has one hyphen. -/
  | option (opt : Opt) (isShort : Bool) (attached : Option Text)
  /-- Something that looks like an option and is none. -/
  | unknown
  deriving DecidableEq

/-- The mark after which all arguments are plain. -/
def separatorText : Text := ['-', '-']

/-- The text without one line feed at its end. -/
def withoutLineFeed (t : Text) : Text := if t.getLast? = some '\n' then t.dropLast else t

/-- Whether a text looks like a negative number, in the decimal digits of any script; a line feed at
its end does not count. -/
def isNegativeNumber (t : Text) : Bool :=
  match withoutLineFeed t with
  | '-' :: t =>
    match t.dropWhile isDecimalDigit with
    | [] => !t.isEmpty
    | '.' :: places => !places.isEmpty && places.all isDecimalDigit
    | _ => false
  | _ => false

/-- The part of a text before its first equals sign, and the part after it if there is one. -/
def splitValue (t : Text) : Text × Option Text :=
  match cut? ['='] t with
  | some (name, value) => (name, some value)
  | none => (t, none)

/-- The options that an argument with hyphens may stand for without being spelled in full. -/
def candidates (arg : Text) : List Role :=
  if separatorText.isPrefixOf arg then
    let (name, value) := splitValue arg
    (spellings.filter fun s => name.isPrefixOf s.1).map fun s =>
      .option s.2 false value
  else
    (spellings.filter fun s => s.1 == arg.take 2).map fun s =>
      .option s.2 true (some (arg.drop 2))

/-- Whether a spelling has one hyphen. -/
def isShortSpelling (t : Text) : Bool := !separatorText.isPrefixOf t

/-- The role of an argument that starts with a hyphen and is not spelled in full. -/
def abbreviatedRole (arg : Text) : Except Stop Role :=
  match candidates arg with
  | _ :: _ :: _ => .error .usage
  | [role] => .ok role
  | [] => if isNegativeNumber arg || arg.contains ' ' then .ok .plain else .ok .unknown

/-- The role of an argument, unless it is an ambiguous abbreviation. -/
def roleOf (arg : Text) : Except Stop Role :=
  if arg.head? ≠ some '-' || arg = ['-'] then .ok .plain
  else match spellings.lookup arg with
    | some opt => .ok (.option opt (isShortSpelling arg) none)
    | none =>
      match splitValue arg with
      | (name, some value) =>
        match spellings.lookup name with
        | some opt => .ok (.option opt (isShortSpelling name) (some value))
        | none => abbreviatedRole arg
      | (_, none) => abbreviatedRole arg

/-- All arguments with their roles. -/
def roles : List Text → Except Stop (List (Text × Role))
  | [] => .ok []
  | arg :: rest =>
    if arg = separatorText then .ok ((arg, .separator) :: rest.map fun a => (a, .plain))
    else match roleOf arg with
      | .error stop => .error stop
      | .ok role =>
        match roles rest with
        | .error stop => .error stop
        | .ok tail => .ok ((arg, role) :: tail)

/-- The option with one letter. -/
def letterOption? (c : Char) : Option Opt := spellings.lookup ['-', c]

/-- The options that share a hyphen, each with the text attached to it. The text after the first is
the value of the first option that has one; before that every character has to be an option. -/
def cluster : Opt → Text → Option (List (Opt × Option Text))
  | opt, t =>
    if opt.takesValue then some [(opt, some t)]
    else match t with
      | [] => none
      | c :: rest =>
        (letterOption? c).bind fun next =>
          if rest.isEmpty then some [(opt, none), (next, none)]
          else (cluster next rest).map ((opt, none) :: ·)

/-- The options that one argument stands for. -/
def optionsOf (opt : Opt) (isShort : Bool) (attached : Option Text) :
    Option (List (Opt × Option Text)) :=
  match attached with
  | none => some [(opt, none)]
  | some t => if opt.takesValue || isShort then cluster opt t else none

/-- The value that a text gives to an option: the mark of plain arguments is none. -/
def attachedValue (t : Text) : Option Text := if t = separatorText then none else some t

namespace Arguments

/-- Whether an option may have a value. -/
def admits (opt : Opt) (value : Option Text) : Bool :=
  match opt.choices?, value with
  | some choices, some t => choices.contains t
  | _, _ => true

/-- The arguments with an option set to a value, if the option may have it. -/
def set (a : Arguments) (opt : Opt) (value : Option Text) : Except Stop Arguments :=
  if admits opt value then
    match opt with
    | .workingDirectory => .ok { a with workingDirectory := value }
    | .workingDirectories => .ok { a with workingDirectories := value }
    | .sourceExtension => .ok { a with sourceExtension := value }
    | .output => .ok { a with output := value }
    | .enumValues => .ok { a with enumValues := value }
    | .pathStyle => .ok { a with pathStyle := value }
    | .config => .ok { a with config := value }
    | .logFile => .ok { a with logFile := value }
    | .help | .version | .noHeader | .verbose => .error .usage
  else .error .usage

/-- The arguments with an option that has no value. -/
def raise (a : Arguments) : Opt → Except Stop Arguments
  | .help => .error .help
  | .version => .error .version
  | .noHeader => .ok { a with noHeader := true }
  | .verbose => .ok { a with verbose := true }
  | _ => .error .usage

/-- Works off the options of one argument. The last of them may have its value in the next
argument; the result tells whether it has. -/
def applyAll (a : Arguments) (next : Option (Text × Role)) :
    List (Opt × Option Text) → Except Stop (Arguments × Bool)
  | [] => .ok (a, false)
  | (opt, some value) :: rest =>
    match a.set opt (attachedValue value) with
    | .error stop => .error stop
    | .ok a => applyAll a next rest
  | (opt, none) :: rest =>
    if opt.takesValue then
      match next with
      | some (value, .plain) => (a.set opt (some value)).map (·, true)
      | _ => .error .usage
    else match a.raise opt with
      | .error stop => .error stop
      | .ok a => applyAll a next rest

/-- Whether options lack a value that the next argument does not have either. -/
def lacksValue (next : Option (Text × Role)) (options : List (Opt × Option Text)) : Bool :=
  match options.getLast?, next with
  | some (_, some _), _ | some _, some (_, .plain) => false
  | some (opt, none), _ => opt.takesValue
  | none, _ => false

end Arguments

/-- How far the arguments were worked off. -/
structure Progress where
  arguments : Arguments := {}
  /-- Whether a run of plain arguments was taken. -/
  hasRoots : Bool := false
  /-- Whether something was not understood. -/
  hasRest : Bool := false

/-- Whether a role is that of a plain argument or the separator. -/
def Role.isPlain : Role → Bool
  | plain | separator => true
  | _ => false

/-- The directories that a run of plain arguments names: all but the first separator. -/
def rootsOfRun (run : List Text) : List Text := run.erase separatorText

/-- Takes a run of plain arguments, or notes that there was one before. -/
def Progress.takeRun (p : Progress) (run : List Text) : Progress :=
  if p.hasRoots then { p with hasRest := true }
  else { p with arguments.roots := rootsOfRun run, hasRoots := true }

/-- Works off arguments with their roles; `fuel` is at least their number. -/
def work : Nat → Progress → List (Text × Role) → Except Stop Progress
  | 0, p, _ => .ok p
  | _, p, [] => .ok p
  | fuel + 1, p, (arg, role) :: rest =>
    match role with
    | .plain | .separator =>
      let run := rest.takeWhile fun a => a.2.isPlain
      work fuel (p.takeRun (arg :: run.map (·.1))) (rest.drop run.length)
    | .unknown => work fuel { p with hasRest := true } rest
    | .option opt isShort attached =>
      match optionsOf opt isShort attached with
      | none => .error .usage
      | some options =>
        if Arguments.lacksValue rest.head? options then .error .usage
        else match p.arguments.applyAll rest.head? options with
          | .error stop => .error stop
          | .ok (a, usedNext) =>
            work fuel { p with arguments := a } (if usedNext then rest.drop 1 else rest)

/-- Reads the arguments. -/
def Arguments.read (args : List Text) : Except Stop Arguments :=
  match roles args with
  | .error stop => .error stop
  | .ok roles =>
    match work roles.length {} roles with
    | .error stop => .error stop
    | .ok p => if p.hasRest then .error .usage else .ok p.arguments

namespace Arguments

/-- One override, unless the argument is missing or empty. -/
def override? (key : Settings.Key) (value : Option Text) : Settings.Layer :=
  (Model.given value).toList.map fun t => (key.raw, .text t)

/-- The working directories that the arguments list: the roots, then those of the option. -/
def directories (a : Arguments) : List Text := a.roots ++ (Model.given a.workingDirectories).toList

/-- What the arguments override. -/
def overrides (a : Arguments) : Settings.Layer :=
  override? .workingDirectory a.workingDirectory
  ++ (if a.directories.isEmpty then []
    else [(Settings.Key.workingDirectories.raw, .text (joinWith [';'] a.directories))])
  ++ override? .sourceExtension a.sourceExtension
  ++ override? .convertDirectory a.output
  ++ (if a.noHeader then [(Settings.Key.autoGeneratedTag.raw, .bool false)] else [])
  ++ override? .enumValues a.enumValues
  ++ override? .pathStyle a.pathStyle

/-- The settings that the arguments ask for. -/
def settings (a : Arguments) (files : FileTree) (here : Path) :
    Except Settings.StorageError Settings :=
  Settings.load files here a.config a.overrides

end Arguments

end Typings.CommandLine
