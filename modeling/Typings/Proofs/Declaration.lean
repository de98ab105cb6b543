import Mathlib.Data.List.Basic
import Typings.Settings.Basic

/-!
# The layout of declarations

What the templates make of a model, written out: the tag, one line for each import, the one name
that is exported, and one line for each field or member. No model is refused.
-/

namespace Typings

open Text Template

namespace Declaration

/-- The comment at the top of a file. -/
def tagText (tagged : Bool) : Text := if tagged then "/* Auto Generated */\n\n".toList else []

/-- The line that imports a name. -/
def importLine (i : Import) : Text :=
  ["import \x7b ".toList, i.name, " \x7d from \"".toList, i.path, "\";\n".toList].flatten

/-- The line of a property. -/
def fieldLine (p : Property) : Text :=
  ["    ".toList, camelCase p.name, if p.isOptional then ['?'] else [], ": ".toList, p.text,
    ";\n".toList].flatten

/-- The line of a member. -/
def memberLine (mode : EnumValues) (e : Member) : Text :=
  ["    ".toList, camelCase e.name,
    if (memberValue mode e).isPresent then [" = ".toList, (memberValue mode e).shown].flatten
    else [],
    ",\n".toList].flatten

/-- What an interface says about its base type. -/
def extendsText (m : Model) : Text :=
  match Model.given m.inherits with
  | some base => " extends ".toList ++ base
  | none => []

/-- What comes before the declared name: the tag, the imports and a blank line after them. -/
def head (tagged : Bool) (m : Model) : Text :=
  [tagText tagged, m.imports.flatMap importLine,
    if m.imports.isEmpty then [] else ['\n']].flatten

/-- How a model is declared. -/
def keyword (m : Model) : Text :=
  if m.isEnum then "export enum ".toList else "export interface ".toList

/-- What comes after the declared name. -/
def body (mode : EnumValues) (m : Model) : Text :=
  if m.isEnum then
    [" \x7b\n".toList, (m.members.filter fun e => !e.name.isEmpty).flatMap (memberLine mode),
      "\x7d\n".toList].flatten
  else [extendsText m, " \x7b\n".toList, m.fields.flatMap fieldLine, "\x7d\n".toList].flatten

/-- The file of a model. -/
def text (tagged : Bool) (mode : EnumValues) (m : Model) : Text :=
  head tagged m ++ keyword m ++ m.name ++ body mode m

/-! ## What the templates render -/

/-- What the template of a name is rendered with. -/
def known (name : Text) (fields : List (Text × Value)) : List (Text × Value) :=
  (selfName, selfValue name) :: fields ++ builtIns

/-- A repeated part renders item by item. -/
theorem render_forEach {α : Type} {fields : List (Text × Value)} {item : Text} {path : List Text}
    {body : List Part} (xs : List α) (value : α → Value) (line : α → Text)
    (hitems : Value.at fields path = .items (xs.map value))
    (hline : ∀ x, renderAll ((item, value x) :: fields) body = line x) :
    (Part.forEach item path body).render fields = xs.flatMap line := by
  rw [Part.render, hitems, Value.elements, List.flatMap_map]
  exact congrArg (xs.flatMap ·) (funext hline)

/-- A repeated part refuses nothing if it refuses no item. -/
theorem refusal?_forEach {α : Type} {fields : List (Text × Value)} {item : Text} {path : List Text}
    {body : List Part} (xs : List α) (value : α → Value)
    (hitems : Value.at fields path = .items (xs.map value))
    (hitem : ∀ x, firstRefusal? ((item, value x) :: fields) body = none) :
    (Part.forEach item path body).refusal? fields = none := by
  rw [Part.refusal?, hitems, Value.elements, List.findSome?_eq_none_iff]
  intro v hv
  obtain ⟨x, -, rfl⟩ := List.mem_map.mp hv
  exact hitem x

/-- A conditional part refuses nothing if its body refuses nothing. -/
theorem refusal?_whenTrue {fields : List (Text × Value)} (path : List Text) {body : List Part}
    (h : firstRefusal? fields body = none) : (Part.whenTrue path body).refusal? fields = none := by
  rw [Part.refusal?, h, ite_self]

theorem refusal?_whenPresent {fields : List (Text × Value)} (path : List Text) {body : List Part}
    (h : firstRefusal? fields body = none) :
    (Part.whenPresent path body).refusal? fields = none := by
  rw [Part.refusal?, h, ite_self]

variable (tagged : Bool) (mode : EnumValues) (m : Model)

theorem render_interfaceTemplate (hm : m.isEnum = false) :
    interfaceTemplate.render (known interfaceTemplateName (interfaceFields tagged m))
      = text tagged mode m := by
  rw [render, interfaceTemplate]
  simp only [renderAll]
  rw [render_forEach m.imports _ importLine rfl fun _ => rfl,
    render_forEach m.fields _ fieldLine rfl fun _ => rfl]
  have hblank : (Part.whenTrue ["imports".toList] [.plain "\n".toList]).render
      (known interfaceTemplateName (interfaceFields tagged m))
      = if m.imports.isEmpty then [] else ['\n'] := by
    change (if (!(m.imports.map _).isEmpty) = true then ['\n'] else []) = _
    cases m.imports <;> rfl
  have hextends : (Part.whenTrue ["extends".toList]
        [.plain " extends ".toList, .slot ["extends".toList] false]).render
      (known interfaceTemplateName (interfaceFields tagged m)) = extendsText m := by
    change (if ((m.inherits.map Value.text).getD .absent).isTrue then
      " extends ".toList ++ (((m.inherits.map Value.text).getD .absent).shown ++ []) else []) = _
    rw [extendsText, List.append_nil]
    rcases m.inherits with _ | _ | ⟨c, base⟩ <;> rfl
  rw [hblank, hextends, text, head, keyword, body, hm]
  simp only [List.flatten_cons, List.flatten_nil, List.append_assoc, List.append_nil,
    Bool.false_eq_true, if_false]
  rfl

theorem render_enumTemplate (hm : m.isEnum = true) :
    enumTemplate.render (known enumTemplateName (enumFields tagged mode m))
      = text tagged mode m := by
  have himports : m.imports = [] := by
    rw [Model.isEnum] at hm
    rw [Model.imports]
    cases hbody : m.body with
    | enumeration underlying members => rfl
    | record properties =>
      rw [hbody] at hm
      cases hm
  rw [render, enumTemplate]
  simp only [renderAll]
  rw [render_forEach (m.members.filter fun e => !e.name.isEmpty) _ (memberLine mode) rfl
    fun _ => rfl, text, head, keyword, body, hm, himports]
  simp only [List.flatten_cons, List.flatten_nil, List.append_assoc, List.append_nil, if_true]
  rfl

/-- Only names are written in camel case, and names are texts. -/
theorem firstRefusal?_interfaceTemplate :
    firstRefusal? (known interfaceTemplateName (interfaceFields tagged m)) interfaceTemplate
      = none := by
  have hfield : ∀ p : Property, firstRefusal?
      (("field".toList, .record [("name".toList, .text p.name),
        ("optional".toList, .flag p.isOptional), ("type".toList, .text p.text)])
        :: known interfaceTemplateName (interfaceFields tagged m))
      [.plain "    ".toList, .slot ["field".toList, "name".toList] true,
       .whenTrue ["field".toList, "optional".toList] [.plain "?".toList],
       .plain ": ".toList, .slot ["field".toList, "type".toList] false,
       .plain ";\n".toList] = none := by
    intro p
    rw [firstRefusal?, firstRefusal?, firstRefusal?, refusal?_whenTrue _ rfl]
    rfl
  rw [interfaceTemplate, firstRefusal?, firstRefusal?, firstRefusal?, firstRefusal?, firstRefusal?,
    firstRefusal?, firstRefusal?, firstRefusal?, tag, refusal?_whenTrue _ rfl,
    refusal?_forEach m.imports _ rfl fun _ => rfl, refusal?_whenTrue _ rfl,
    refusal?_whenTrue _ rfl, refusal?_forEach m.fields _ rfl hfield]
  rfl

theorem firstRefusal?_enumTemplate :
    firstRefusal? (known enumTemplateName (enumFields tagged mode m)) enumTemplate = none := by
  have hentry : ∀ e : Member, firstRefusal?
      (("entry".toList, .record [("name".toList, .text e.name),
        ("value".toList, memberValue mode e)]) :: known enumTemplateName (enumFields tagged mode m))
      [.plain "    ".toList, .slot ["entry".toList, "name".toList] true,
       .whenPresent ["entry".toList, "value".toList]
        [.plain " = ".toList, .slot ["entry".toList, "value".toList] false],
       .plain ",\n".toList] = none := by
    intro e
    rw [firstRefusal?, firstRefusal?, firstRefusal?, refusal?_whenPresent _ rfl]
    rfl
  rw [enumTemplate, firstRefusal?, firstRefusal?, firstRefusal?, firstRefusal?, firstRefusal?, tag,
    refusal?_whenTrue _ rfl,
    refusal?_forEach (m.members.filter fun e => !e.name.isEmpty) _ rfl hentry]
  rfl

end Declaration

/-- A generator with the templates of the library writes every model. -/
theorem Generator.generate_eq {g : Generator} (hg : g.engine = Declaration.engine) (m : Model) :
    g.generate m = .ok (Declaration.text g.tagged g.enumValues m) := by
  have hrender : ∀ {name : Text} {template : Template} {fields : List (Text × Value)},
      Declaration.engine.find? name = some (.ok template) → fields.lookup selfName = none →
      firstRefusal? (Declaration.known name fields) template = none →
      g.render name fields = .ok (template.render (Declaration.known name fields)) := by
    intro name template fields hfind hself hrefusal
    rw [Declaration.known] at hrefusal ⊢
    rw [Generator.render, hg, TemplateEngine.exists?, TemplateEngine.render, hfind]
    dsimp only
    rw [TemplateEngine.renderAs, hself, if_neg (by simp)]
    dsimp only
    rw [hrefusal]
    rfl
  rw [generate]
  cases hbody : m.body with
  | enumeration underlying members =>
    dsimp only
    rw [hrender rfl rfl (Declaration.firstRefusal?_enumTemplate ..),
      Declaration.render_enumTemplate _ _ _ (by rw [Model.isEnum, hbody])]
  | record properties =>
    dsimp only
    rw [hrender rfl rfl (Declaration.firstRefusal?_interfaceTemplate ..),
      Declaration.render_interfaceTemplate _ g.enumValues _ (by rw [Model.isEnum, hbody])]

/-- The declaration of a model under some settings. -/
def Settings.declaration (settings : Settings) (m : Model) : Text :=
  Declaration.text settings.autoGeneratedTag.isGiven settings.enumValues m

theorem Settings.generate_eq (settings : Settings) (m : Model) :
    settings.generator.generate m = .ok (settings.declaration m) :=
  Generator.generate_eq rfl m

end Typings
