import Typings.Declaration

/-!
# Target languages

A registry maps the names of target languages, in any case, to what writes them. A language has one
key and any number of aliases. A registration that fails halfway keeps what it has done so far.
-/

namespace Typings

open Text

/-- What writes a target language. -/
structure Target where
  language : Text
  extension : Text
  engine : TemplateEngine

/-- The target of the declarations of this library. -/
def Target.typescript : Target :=
  { language := "typescript".toList
    extension := Generator.extension
    engine := Declaration.engine }

/-- Registered languages under their keys, and aliases that lead to keys. -/
structure TargetRegistry where
  languages : List (Text × Target) := []
  aliases : List (Text × Text) := []

namespace TargetRegistry

/-- Why a registration or a look-up fails. -/
inductive Error where
  | notAGenerator
  | aliasIsLanguage (aliasName : Text)
  | aliasTaken (aliasName language : Text)
  | unknownLanguage (language : Text) (available : List Text)
  | danglingAlias (language : Text)
  deriving DecidableEq

/-- The sentence that reports the error. -/
def Error.message : Error → Text
  | notAGenerator => "Generator class must inherit from CodeGenerator".toList
  | aliasIsLanguage aliasName =>
    "Alias '".toList ++ aliasName ++ "' conflicts with existing primary language".toList
  | aliasTaken aliasName language =>
    "Alias '".toList ++ aliasName ++ "' already points to '".toList ++ language ++ ['\x27']
  | unknownLanguage language available =>
    "No generator registered for language: ".toList ++ language ++ ". Available: ".toList
      ++ joinWith ", ".toList available
  | danglingAlias language => '\x27' :: language ++ ['\x27']

/-- A list of pairs with the value of a key set, in place if the key was there. -/
def set {α : Type} (key : Text) (value : α) : List (Text × α) → List (Text × α)
  | [] => [(key, value)]
  | (k, v) :: rest => if k = key then (key, value) :: rest else (k, v) :: set key value rest

/-- The keys of the languages in code point order. -/
def keys (r : TargetRegistry) : List Text := sort (r.languages.map (·.1))

/-- Points aliases to a language key, one after the other. Unless told to replace, the first alias
that is a language or leads elsewhere ends this with an error. -/
def addAliases (key : Text) (replace : Bool) :
    List Text → TargetRegistry → Except Error Unit × TargetRegistry
  | [], r => (.ok (), r)
  | aliasName :: rest, r =>
    let aliasKey := lower aliasName
    if aliasKey = key then addAliases key replace rest r
    else if !replace && (r.languages.lookup aliasKey).isSome then
      (.error (.aliasIsLanguage aliasName), r)
    else match (if replace then none else r.aliases.lookup aliasKey) with
      | some other =>
        if other = key then
          addAliases key replace rest { r with aliases := set aliasKey key r.aliases }
        else (.error (.aliasTaken aliasName other), r)
      | none => addAliases key replace rest { r with aliases := set aliasKey key r.aliases }

/-- Registers a language. What is offered is `none` if it cannot write a language at all. A language
that is registered already is left alone unless told to replace it. -/
def register (r : TargetRegistry) (language : Text) (offered : Option Target) (aliases : List Text)
    (replace : Bool) : Except Error Unit × TargetRegistry :=
  match offered with
  | none => (.error .notAGenerator, r)
  | some target =>
    let key := lower language
    if (r.languages.lookup key).isSome && !replace then (.ok (), r)
    else addAliases key replace aliases { r with languages := set key target r.languages }

/-- What writes a language, by its name or an alias in any case. -/
def find (r : TargetRegistry) (language : Text) : Except Error Target :=
  let key := lower language
  match r.languages.lookup key with
  | some target => .ok target
  | none =>
    match r.aliases.lookup key with
    | none => .error (.unknownLanguage language r.keys)
    | some primary =>
      match r.languages.lookup primary with
      | some target => .ok target
      | none => .error (.danglingAlias primary)

/-- The registry with the languages of this library. -/
def builtIn : TargetRegistry :=
  (register {} "typescript".toList (some .typescript) ["ts".toList] false).2

end TargetRegistry

end Typings
