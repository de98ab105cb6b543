import Typings.CommandLine.Arguments
import Typings.Console.Markup
import Typings.Conversion
import Typings.Target

/-!
# The command line

The program reads its arguments and settings, runs one conversion, and reports it. It ends with
code 0 if the conversion succeeds, with code 1 if anything fails, and with code 2 if the arguments
are not understood. Some errors nobody handles; they end the program as well, but without report.
-/

namespace Typings.CommandLine

open Text

/-- An error that is not handled. -/
inductive Escape where
  /-- The log file cannot be opened. -/
  | logFile (error : FileError)
  | settings (error : Settings.StorageError)
  /-- The source extension is no string. -/
  | extension
  | markup (error : Console.Markup.Error)
  /-- A line that is printed holds surrogates, which have no bytes. -/
  | surrogates

/-- The sentence that reports the error. -/
def Escape.message : Escape → Text
  | logFile error => error.message
  | settings error => RawText.shown error.message
  | extension => "The source extension is not a string".toList
  | markup error => error.message
  | surrogates => "surrogates not allowed".toList

/-- How the program ends. -/
inductive Ending where
  /-- The program reports what happened, and ends with the code. -/
  | finished (code : Nat)
  /-- The arguments end the program. -/
  | stopped (stop : Stop)
  /-- An error that is not handled ends the program. -/
  | escaped (error : Escape)

/-- The code that the program ends with. -/
def Ending.code : Ending → Nat
  | finished code => code
  | stopped .help | stopped .version => 0
  | stopped .usage => 2
  | escaped _ => 1

/-- What a run of the program leaves behind. -/
structure Outcome where
  ending : Ending
  /-- What is printed. -/
  output : Text := []
  files : FileTree
  /-- What the conversion logged, and its warnings. -/
  log : List Text := []

/-- The name of the program and its version. -/
def versionText : Text := "model-converter 0.1.0\n".toList

/-- How to call the program. -/
def helpText : Text :=
  "usage: model-converter [options] [DIRECTORY ...]\n\n".toList
  ++ "Convert C# model classes and enums into TypeScript declarations.\n\noptions:\n".toList
  ++ (spellings.flatMap fun s => ("  ".toList ++ s.1)
    ++ (if s.2.takesValue then " VALUE".toList else []) ++ ['\n'])

/-- What is printed when the arguments end the program. -/
def Stop.output : Stop → Text
  | help => helpText
  | version => versionText
  | usage => []

/-- Whether the program reports an error of its settings, or leaves it unhandled. -/
def isReported : Settings.StorageError → Bool
  | .refused _ | .undecodable _ | .tooManyDigits _ | .tooDeep | .unencodable => false
  | _ => true

/-- The sentence that reports an error of the settings. -/
def settingsMessage (e : Settings.StorageError) : RawText :=
  RawText.ofText "Configuration error: ".toList ++ e.message

/-- The log file that the arguments name. -/
def logPath? (a : Arguments) (here : Path) : Option Path :=
  (Model.given a.logFile).map fun name => (here.join (Path.ofText name)).normalise

/-- Opens the log file, which keeps what it has. -/
def openLog (files : FileTree) (path : Option Path) : Except FileError FileTree :=
  match path with
  | none => .ok files
  | some path =>
    match files.read path with
    | .ok _ => .ok files
    | .error .missing => (files.write path []).mapError fun code => { code, path }
    | .error code => .error { code, path }

/-- The marked texts that report a conversion: how many files there are and where, and, if asked
for, more about the run and the files themselves. -/
def summary (verbose : Bool) (c : Conversion) : List Text :=
  let enums := c.models.filter Model.isEnum
  let items := fun (paths : List Path) => joinWith ['\n'] (paths.map Path.text)
  ["[green]✓[/green] Generated ".toList ++ ofNat c.written.length ++ " file(s) in [cyan]".toList
    ++ c.output.text ++ "[/cyan]".toList]
  ++ (if verbose then
    ["Language: ".toList ++ Target.typescript.language,
     "File Extension: ".toList ++ Target.typescript.extension,
     "Roots: ".toList ++ items c.roots,
     "Anchor: ".toList ++ c.anchor,
     "Model Count: ".toList ++ ofNat c.models.length,
     "Enum Count: ".toList ++ ofNat enums.length,
     "Interface Count: ".toList ++ ofNat (c.models.length - enums.length)]
    ++ (if c.written.isEmpty then [] else [items c.written])
  else [])

/-- Shows a marked line, if it can be printed. -/
def showLine (line : RawText) : Except Escape Text :=
  match Console.Markup.render (RawText.shown line) with
  | .error e => .error (.markup e)
  | .ok shown => if (RawText.text? line).isSome then .ok shown else .error .surrogates

/-- What is printed for marked lines, up to the first one that cannot be printed. -/
def printed : List RawText → Text × Option Escape
  | [] => ([], none)
  | line :: rest =>
    match showLine line with
    | .error e => ([], some e)
    | .ok shown => (shown ++ '\n' :: (printed rest).1, (printed rest).2)

/-- The outcome of a run that prints marked lines last and then ends in the given way. -/
def Outcome.ofLines (lines : List RawText) (files : FileTree) (ending : Ending) : Outcome :=
  match printed lines with
  | (output, none) => { ending, output, files }
  | (output, some e) => { ending := .escaped e, output, files }

/-- The marked line for an error of the settings. -/
def errorLine (e : Settings.StorageError) : RawText :=
  RawText.ofText "[red]✗ Error:[/red] ".toList ++ settingsMessage e

/-- The marked line for a warning about the settings. -/
def warningLine (warning : RawText) : RawText :=
  RawText.ofText "[yellow]⚠️  ".toList ++ warning ++ RawText.ofText "[/yellow]".toList

/-- The marked line for a conversion that failed. -/
def failureLine (e : Conversion.Failure) : RawText :=
  RawText.ofText ("[red]✗ ".toList ++ Conversion.failureMessage e ++ "[/red]".toList)

/-- Runs a conversion under settings, and reports it. -/
def convert (verbose : Bool) (settings : Settings) (files : FileTree) (here : Path) : Outcome :=
  let (result, session) := Session.run (Conversion.run settings here) { files }
  let reported := match result with
    | .error e => Outcome.ofLines [failureLine e] session.files (.finished 1)
    | .ok c =>
      Outcome.ofLines ((summary verbose c).map RawText.ofText) session.files (.finished 0)
  { reported with log := session.log ++ session.warnings }

/-- Runs a conversion under settings, after warnings about them. -/
def warnAndConvert (verbose : Bool) (settings : Settings) (warnings : List RawText)
    (files : FileTree) (here : Path) : Outcome :=
  match printed (warnings.map warningLine) with
  | (output, some e) => { ending := .escaped e, output, files }
  | (output, none) =>
    let converted := convert verbose settings files here
    { converted with output := output ++ converted.output }

/-- Runs the program with arguments that were understood. -/
def runArguments (a : Arguments) (files : FileTree) (here : Path) : Outcome :=
  match openLog files (logPath? a here) with
  | .error e => { ending := .escaped (.logFile e), files }
  | .ok files =>
    match a.settings files here with
    | .error e =>
      if isReported e then Outcome.ofLines [errorLine e] files (.finished 1)
      else { ending := .escaped (.settings e), files }
    | .ok settings =>
      match settings.warnings? with
      | none => { ending := .escaped .extension, files }
      | some warnings => warnAndConvert a.verbose settings warnings files here

/-- Runs the program in a directory. -/
def run (args : List Text) (files : FileTree) (here : Path) : Outcome :=
  match Arguments.read args with
  | .error stop => { ending := .stopped stop, output := stop.output, files }
  | .ok a => runArguments a files here

/-- The paths that a run looks at, as far as the given files tell: the log file, the settings file,
the roots and the output directory. -/
def concerns (args : List Text) (files : FileTree) (here : Path) : List Path :=
  match Arguments.read args with
  | .error _ => []
  | .ok a =>
    let named := (logPath? a here).toList
      ++ ((Model.given a.config).map fun name => here.join (Path.ofText name)).toList
    match a.settings files here with
    | .error _ => named
    | .ok settings =>
      let output := match Conversion.outputOf settings here with
        | .ok (some output) => output
        | _ => here
      named ++ (Discovery.rootsOf settings here).filterMap Except.toOption ++ [output]

end Typings.CommandLine
