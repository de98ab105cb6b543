import Typings.Text.Case

/-!
# Names of members, files and folders

The case conversions, and the two styles in which output files and folders are named.
-/

namespace Typings

open Text

/-- Lowers the first character. A name without any lower-case letter is lowered entirely, and one
that starts in lower case is kept. -/
def camelCase : Text → Text
  | [] => []
  | c :: r =>
    if isLower c then c :: r
    else if (c :: r).any isLowerLetter then lowerChar c ++ r
    else lower (c :: r)

/-- Raises the first character, unless it is upper-case already. -/
def pascalCase : Text → Text
  | [] => []
  | c :: r => if isUpper c then c :: r else upperChar c ++ r

/-- The words of a name: every upper-case character but the first starts one. -/
def nameWords : Text → List Text
  | [] => []
  | [c] => [[c]]
  | c :: d :: r =>
    match nameWords (d :: r) with
    | [] => [[c]]
    | w :: ws => if isUpper d then [c] :: w :: ws else (c :: w) :: ws

/-- The words of a name in lower case, joined with hyphens. -/
def kebabCase (name : Text) : Text := joinWith ['-'] ((nameWords name).map lower)

/-- Every segment of a path in kebab case. -/
def kebabCasePath (path : Text) : Text := joinWith ['/'] ((splitOn '/' path).map kebabCase)

/-- The naming style of generated files and folders: file names in camel case below unchanged
folders, or everything in kebab case. -/
inductive PathStyle where
  | default
  | kebab
  deriving DecidableEq, Repr

/-- The name of a model's output file, without extension. -/
def PathStyle.fileStem : PathStyle → Text → Text
  | default, name => camelCase name
  | kebab, name => kebabCase name

/-- The output folder of a source folder, both relative to their roots. -/
def PathStyle.directory : PathStyle → Text → Text
  | default, folder => folder
  | kebab, folder => kebabCasePath folder

end Typings
