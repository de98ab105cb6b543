import Typings.Proofs.CommandLine.Configuration
import Typings.Proofs.Console.Brackets
import Typings.Proofs.Source.Literal

/-!
# How a run ends

A run without a log file ends with code 0 if its conversion succeeds, and otherwise with code 1
after it printed an error, unless something escapes. Three things do: a failure to read the settings
file that is not reported, a source extension that is no string, and a line that cannot be printed.
A line can be printed if what it quotes are texts in which no opening bracket starts a tag.
-/

namespace Typings.CommandLine

open Settings Text Console.Markup

variable {a : Arguments} {files : FileTree} {here : Path} {verbose : Bool} {line : RawText}
  {ls more : List RawText}

/-! ## Printing -/

/-- Whether a marked line can be printed. -/
def IsPrintable (line : RawText) : Prop := ∃ shown, showLine line = .ok shown

theorem isPrintable_ofText {t : Text} (h : IsTame t) : IsPrintable (RawText.ofText t) := by
  obtain ⟨shown, hshown⟩ := h.exists_render
  refine ⟨shown, ?_⟩
  rw [showLine, RawText.shown_ofText, hshown, RawText.text?_ofText]
  rfl

/-- Lines that are printed are shown one after the other. -/
theorem printed_eq_iff {output : Text} : printed ls = (output, none)
    ↔ ∃ shown, List.Forall₂ (fun line t => showLine line = .ok t) ls shown
      ∧ output = shown.flatMap (· ++ ['\n']) := by
  induction ls generalizing output with
  | nil => simp [printed, eq_comm]
  | cons line ls ih =>
    rw [printed]
    cases hline : showLine line with
    | error e => simp [List.forall₂_cons_left_iff, hline]
    | ok t =>
      simp only [List.forall₂_cons_left_iff, hline, Prod.mk.injEq, Except.ok.injEq]
      constructor
      · rintro ⟨rfl, hnone⟩
        obtain ⟨shown, hall, hshown⟩ := ih.mp (Prod.ext rfl hnone)
        exact ⟨t :: shown, ⟨t, shown, rfl, hall, rfl⟩, by simp [hshown]⟩
      · rintro ⟨-, ⟨-, shown, rfl, hall, rfl⟩, rfl⟩
        have hprinted := ih.mpr ⟨shown, hall, rfl⟩
        simp [hprinted]

theorem printed_snd_eq_none_iff : (printed ls).2 = none ↔ ∀ line ∈ ls, IsPrintable line := by
  induction ls with
  | nil => simp [printed]
  | cons line ls ih =>
    rw [printed, List.forall_mem_cons, ← ih, IsPrintable]
    cases showLine line <;> simp

theorem printed_append : printed (ls ++ more)
    = match printed ls with
      | (output, some e) => (output, some e)
      | (output, none) => (output ++ (printed more).1, (printed more).2) := by
  induction ls with
  | nil => rfl
  | cons line ls ih =>
    rw [List.cons_append, printed, printed, ih]
    cases showLine line with
    | error e => rfl
    | ok t =>
      obtain ⟨output, e⟩ := printed ls
      cases e <;> simp

/-! ## What a run prints -/

/-- What a conversion under settings comes to. -/
def converted (settings : Settings) (files : FileTree) (here : Path) :
    Except Conversion.Failure Conversion :=
  (Session.run (Conversion.run settings here) { files }).1

/-- The marked lines that report a conversion. -/
def reportLines (verbose : Bool) : Except Conversion.Failure Conversion → List RawText
  | .error e => [failureLine e]
  | .ok c => (summary verbose c).map RawText.ofText

/-- The marked lines of a run: the error of its settings, or the warnings about them and the report
of the conversion. -/
def Arguments.lines (a : Arguments) (files : FileTree) (here : Path) : List RawText :=
  match a.settings files here with
  | .error e => [errorLine e]
  | .ok settings => (settings.warnings?.getD []).map warningLine
    ++ reportLines a.verbose (converted settings files here)

/-- Whether there are settings and the conversion under them succeeds. -/
def Arguments.Converts (a : Arguments) (files : FileTree) (here : Path) : Prop :=
  ∃ settings c, a.settings files here = .ok settings ∧ converted settings files here = .ok c

/-- What keeps a run from ending as it should. -/
inductive Arguments.Escapes (a : Arguments) (files : FileTree) (here : Path) : Prop
  /-- The settings file is not read, and that is not reported. -/
  | unread {name : Text} {e : StorageError} (hname : Model.given a.config = some name)
    (h : Unread files here (Path.ofText name) e)
  /-- The source extension is no string. -/
  | extension {settings : Settings} (h : a.settings files here = .ok settings)
    (hextension : ∀ t, settings.sourceExtension ≠ .string t)
  /-- A line cannot be printed. -/
  | line {line : RawText} (hline : line ∈ a.lines files here) (h : ¬IsPrintable line)

/-- The ending of a run that prints its lines and then ends with a code. -/
def endingOf (ls : List RawText) (code : Nat) : Ending :=
  match (printed ls).2 with
  | none => .finished code
  | some e => .escaped e

theorem ofLines_eq (ls : List RawText) (files : FileTree) (code : Nat) :
    Outcome.ofLines ls files (.finished code)
      = { ending := endingOf ls code, output := (printed ls).1, files } := by
  rw [Outcome.ofLines, endingOf]
  obtain ⟨output, e⟩ := printed ls
  cases e <;> rfl

/-- The code for what a conversion came to. -/
def codeOf : Except Conversion.Failure Conversion → Nat
  | .error _ => 1
  | .ok _ => 0

theorem convert_eq (verbose : Bool) (settings : Settings) (files : FileTree) (here : Path) :
    (convert verbose settings files here).ending
        = endingOf (reportLines verbose (converted settings files here))
          (codeOf (converted settings files here))
      ∧ (convert verbose settings files here).output
        = (printed (reportLines verbose (converted settings files here))).1 := by
  rw [convert, converted]
  obtain ⟨result, session⟩ := Session.run (Conversion.run settings here) { files }
  cases result with
  | error e => simp only [ofLines_eq, reportLines, codeOf, and_self]
  | ok c => simp only [ofLines_eq, reportLines, codeOf, and_self]

/-- Warnings are printed in front of the report, which does not come if one cannot be printed. -/
theorem warnAndConvert_eq (settings : Settings) (warnings : List RawText) :
    (warnAndConvert verbose settings warnings files here).ending
        = endingOf (warnings.map warningLine
            ++ reportLines verbose (converted settings files here))
          (codeOf (converted settings files here))
      ∧ (warnAndConvert verbose settings warnings files here).output
        = (printed (warnings.map warningLine
            ++ reportLines verbose (converted settings files here))).1 := by
  obtain ⟨hending, houtput⟩ := convert_eq verbose settings files here
  rw [warnAndConvert, endingOf, printed_append]
  obtain ⟨output, e⟩ := printed (warnings.map warningLine)
  cases e with
  | none => exact ⟨hending, congrArg (output ++ ·) houtput⟩
  | some e => exact ⟨rfl, rfl⟩

/-- The code that a run should end with. -/
def Arguments.code (a : Arguments) (files : FileTree) (here : Path) : Nat :=
  match a.settings files here with
  | .error _ => 1
  | .ok settings => codeOf (converted settings files here)

theorem code_of_converts (h : a.Converts files here) : a.code files here = 0 := by
  obtain ⟨settings, c, hsettings, hconverted⟩ := h
  simp only [Arguments.code, hsettings, hconverted, codeOf]

theorem code_of_not_converts (h : ¬a.Converts files here) : a.code files here = 1 := by
  rw [Arguments.code]
  split
  · rfl
  · next settings hsettings =>
    cases hconverted : converted settings files here with
    | error e => rfl
    | ok c => exact absurd ⟨settings, c, hsettings, hconverted⟩ h

/-- A run that fails has a line that reports an error. -/
theorem exists_error_line (h : ¬a.Converts files here) : ∃ line ∈ a.lines files here,
    (∃ e, line = errorLine e) ∨ ∃ e, line = failureLine e := by
  rw [Arguments.lines]
  split
  · next e _ => exact ⟨_, List.mem_singleton_self _, Or.inl ⟨e, rfl⟩⟩
  · next settings hsettings =>
    cases hconverted : converted settings files here with
    | error e =>
      exact ⟨failureLine e, List.mem_append_right _ (List.mem_singleton_self _), Or.inr ⟨e, rfl⟩⟩
    | ok c => exact absurd ⟨settings, c, hsettings, hconverted⟩ h

theorem openLog_of_none (hlog : Model.given a.logFile = none) :
    openLog files (logPath? a here) = .ok files := by
  rw [logPath?, hlog]
  rfl

theorem extension?_eq_none_iff {settings : Settings} :
    settings.extension? = none ↔ ∀ t, settings.sourceExtension ≠ .string t := by
  rw [extension?]
  cases settings.sourceExtension <;> simp

/-- A failure to read the settings file ends the run at once. -/
theorem runArguments_of_unread (hlog : Model.given a.logFile = none) {name : Text}
    {e : StorageError} (hname : Model.given a.config = some name)
    (h : Unread files here (Path.ofText name) e) :
    (runArguments a files here).ending = .escaped (.settings e) := by
  have hsettings : a.settings files here = .error e := h.load hname
  have hsilent := (Arguments.isReported_eq_false_iff hsettings).mpr ⟨name, hname, h⟩
  rw [runArguments, openLog_of_none hlog]
  simp only [hsettings, hsilent, Bool.false_eq_true, if_false]

theorem runArguments_of_extension (hlog : Model.given a.logFile = none) {settings : Settings}
    (hsettings : a.settings files here = .ok settings)
    (hextension : ∀ t, settings.sourceExtension ≠ .string t) :
    (runArguments a files here).ending = .escaped .extension := by
  have hwarnings : settings.warnings? = none := by
    rw [warnings?, extension?_eq_none_iff.mpr hextension]
    rfl
  rw [runArguments, openLog_of_none hlog]
  simp only [hsettings, hwarnings]

/-- Any other run prints its lines and ends with its code. -/
theorem runArguments_eq (hlog : Model.given a.logFile = none)
    (hread : ∀ name e, Model.given a.config = some name →
      ¬Unread files here (Path.ofText name) e)
    (hextension : ∀ settings, a.settings files here = .ok settings →
      ∃ t, settings.sourceExtension = .string t) :
    (runArguments a files here).ending = endingOf (a.lines files here) (a.code files here)
      ∧ (runArguments a files here).output = (printed (a.lines files here)).1 := by
  rw [runArguments, openLog_of_none hlog, Arguments.lines, Arguments.code]
  dsimp only
  cases hsettings : a.settings files here with
  | error e =>
    have hreported : isReported e = true := by
      by_contra hsilent
      obtain ⟨name, hname, hunread⟩ :=
        (Arguments.isReported_eq_false_iff hsettings).mp (Bool.not_eq_true _ ▸ hsilent)
      exact hread name e hname hunread
    simp only [hreported, if_true, ofLines_eq, and_self]
  | ok settings =>
    obtain ⟨t, ht⟩ := hextension settings hsettings
    have hsome : settings.extension? = some t := by rw [extension?, ht]
    obtain ⟨warnings, hwarnings⟩ : ∃ warnings, settings.warnings? = some warnings := by
      rw [warnings?, hsome]
      exact ⟨_, rfl⟩
    simp only [hwarnings, Option.getD_some]
    exact warnAndConvert_eq settings warnings

/-- What escapes a run, and how a run ends that nothing escapes. -/
theorem runArguments_ending (hlog : Model.given a.logFile = none) :
    ((∃ e, (runArguments a files here).ending = .escaped e) ↔ a.Escapes files here)
    ∧ (¬a.Escapes files here →
      (runArguments a files here).ending = .finished (a.code files here)
      ∧ printed (a.lines files here) = ((runArguments a files here).output, none)) := by
  by_cases hread : ∃ name e, Model.given a.config = some name
      ∧ Unread files here (Path.ofText name) e
  · obtain ⟨name, e, hname, hunread⟩ := hread
    have hescapes : a.Escapes files here := .unread hname hunread
    exact ⟨iff_of_true ⟨_, runArguments_of_unread hlog hname hunread⟩ hescapes,
      fun h => absurd hescapes h⟩
  by_cases hextension : ∃ settings, a.settings files here = .ok settings
      ∧ ∀ t, settings.sourceExtension ≠ .string t
  · obtain ⟨settings, hsettings, hnone⟩ := hextension
    have hescapes : a.Escapes files here := .extension hsettings hnone
    exact ⟨iff_of_true ⟨_, runArguments_of_extension hlog hsettings hnone⟩ hescapes,
      fun h => absurd hescapes h⟩
  -- the run gets as far as its lines, so it ends well exactly if each of them can be printed
  push Not at hread hextension
  obtain ⟨hending, houtput⟩ := runArguments_eq hlog hread hextension
  rw [hending, houtput, endingOf]
  have hlines : (printed (a.lines files here)).2 = none
      ↔ ∀ line ∈ a.lines files here, IsPrintable line := printed_snd_eq_none_iff
  cases hprinted : printed (a.lines files here) with
  | mk output error =>
    rw [hprinted] at hlines
    cases error with
    | none =>
      have hnone : ¬a.Escapes files here := by
        rintro (⟨hname, hunread⟩ | ⟨hsettings, hnone⟩ | ⟨hline, hbad⟩)
        · exact hread _ _ hname hunread
        · obtain ⟨t, ht⟩ := hextension _ hsettings
          exact hnone t ht
        · exact hbad (hlines.mp rfl _ hline)
      exact ⟨iff_of_false (by simp) hnone, fun _ => ⟨rfl, rfl⟩⟩
    | some e =>
      have hescapes : a.Escapes files here := by
        by_contra hall
        have hprintable : ∀ line ∈ a.lines files here, IsPrintable line := fun line hline => by
          by_contra hbad
          exact hall (.line hline hbad)
        exact absurd (hlines.mpr hprintable) (by simp)
      exact ⟨iff_of_true ⟨e, rfl⟩ hescapes, fun h => absurd hescapes h⟩

/-! ## What lines quote -/

/-- What the lines of a run quote: the error of its settings, or their extension and what the report
of the conversion quotes. -/
def Arguments.quotes (a : Arguments) (files : FileTree) (here : Path) : List RawText :=
  match a.settings files here with
  | .error e => [e.message]
  | .ok settings => settings.extension?.toList
    ++ match converted settings files here with
      | .error e => [RawText.ofText e.message]
      | .ok c => (c.output.text :: if a.verbose then
        c.anchor :: (c.roots ++ c.written).map Path.text else []).map RawText.ofText

/-- A line that puts one text without tags between tags for a color, and another one behind them. -/
theorem isPrintable_colored {color inner rest : Text} (hcolor : color ∈ tagColors)
    (hinner : IsTagless inner) (hrest : IsTame rest) :
    IsPrintable (RawText.ofText
      ('[' :: (color ++ ']' :: (inner ++ '[' :: ('/' :: color ++ ']' :: rest))))) :=
  isPrintable_ofText (.pair .nil (by simp) hcolor hinner hrest)

theorem isPrintable_errorLine {e : StorageError} {u : Text} (he : e.message = RawText.ofText u)
    (hu : IsTagless u) : IsPrintable (errorLine e) := by
  have hred : "red".toList ∈ tagColors := by decide
  have hinner : IsTagless "✗ Error:".toList := by decide
  have hrest : IsTagless (" Configuration error: ".toList ++ u) :=
    isTagless_behind (by decide) (by decide) hu
  have hprintable := isPrintable_colored hred hinner (.tagless hrest)
  rw [errorLine, settingsMessage, he, ← RawText.ofText_append, ← RawText.ofText_append]
  simpa using hprintable

theorem isPrintable_warningLine {w : Text} (hw : IsTagless w) :
    IsPrintable (warningLine (RawText.ofText w)) := by
  have hyellow : "yellow".toList ∈ tagColors := by decide
  have hinner : IsTagless ("⚠️  ".toList ++ w) :=
    isTagless_behind (by decide) (by decide) hw
  have hprintable := isPrintable_colored hyellow hinner (.tagless .nil)
  rw [warningLine, ← RawText.ofText_append, ← RawText.ofText_append]
  simpa using hprintable

theorem isPrintable_failureLine {e : Conversion.Failure} (he : IsTagless e.message) :
    IsPrintable (failureLine e) := by
  have hred : "red".toList ∈ tagColors := by decide
  have hinner : IsTagless ("✗ Conversion failed: ".toList ++ e.message) :=
    isTagless_behind (by decide) (by decide) he
  have hprintable := isPrintable_colored hred hinner (.tagless .nil)
  have heq : failureLine e = RawText.ofText ("[red]✗ ".toList
      ++ ("Conversion failed: ".toList ++ e.message) ++ "[/red]".toList) := rfl
  rw [heq]
  simpa using hprintable

theorem isTagless_ofNat (n : Nat) : IsTagless (ofNat n) :=
  isTagless_of_notMem fun h => absurd (Source.isDigit_of_mem_ofNat h) (by decide)

/-- The line that counts the written files quotes the output directory. -/
theorem isPrintable_countLine (n : Nat) {u : Text} (hu : IsTagless u) :
    IsPrintable (RawText.ofText ("[green]✓[/green] Generated ".toList ++ ofNat n
      ++ " file(s) in [cyan]".toList ++ u ++ "[/cyan]".toList)) := by
  have hgreen : "green".toList ∈ tagColors := by decide
  have hcyan : "cyan".toList ∈ tagColors := by decide
  have hinner : IsTagless "✓".toList := by decide
  have hbetween : IsTagless (" Generated ".toList ++ ofNat n ++ " file(s) in ".toList) := by
    have hcount : IsTagless (" Generated ".toList ++ ofNat n) :=
      isTagless_behind (by decide) (by decide) (isTagless_ofNat n)
    refine isTagless_append hcount (by decide) fun _ d hd => ?_
    obtain rfl : ' ' = d := by simpa using hd
    decide
  have hlast : (" Generated ".toList ++ ofNat n ++ " file(s) in ".toList).getLast?
      ≠ some '\\' := by
    rw [List.getLast?_append]
    simp
  have hrest := IsTame.pair hbetween hlast hcyan hu (.tagless .nil)
  simpa using isPrintable_colored hgreen hinner hrest

/-- The lines that report a conversion can be printed if the paths that they show have no tags. -/
theorem isPrintable_summary {c : Conversion} (houtput : IsTagless c.output.text)
    (hmore : verbose = true →
      IsTagless c.anchor ∧ ∀ p ∈ c.roots ++ c.written, IsTagless p.text) :
    ∀ t ∈ summary verbose c, IsPrintable (RawText.ofText t) := by
  rw [summary]
  refine List.forall_mem_append.mpr
    ⟨List.forall_mem_singleton.mpr (isPrintable_countLine _ houtput), ?_⟩
  by_cases hverbose : verbose = true
  · obtain ⟨hanchor, hpath⟩ := hmore hverbose
    obtain ⟨hroots, hwritten⟩ := List.forall_mem_append.mp hpath
    have hcount (n : Nat) {label : Text} (hlabel : IsTagless label)
        (hlast : label.getLast? ≠ some '[') : IsTagless (label ++ ofNat n) :=
      isTagless_behind hlabel hlast (isTagless_ofNat n)
    have hpaths {paths : List Path} (h : ∀ p ∈ paths, IsTagless p.text) :
        IsTagless (joinWith ['\n'] (paths.map Path.text)) :=
      isTagless_joinWith (List.forall_mem_map.mpr h)
    rw [if_pos hverbose]
    refine fun t ht => isPrintable_ofText (.tagless ?_)
    revert t
    refine List.forall_mem_append.mpr ⟨?_, ?_⟩
    · simp only [List.forall_mem_cons]
      refine ⟨?_, ?_, isTagless_behind (by decide) (by decide) (hpaths hroots),
        isTagless_behind (by decide) (by decide) hanchor, hcount _ (by decide) (by decide),
        hcount _ (by decide) (by decide), hcount _ (by decide) (by decide), ?_⟩
      · decide
      · decide
      · simp
    · split_ifs
      · simp
      · exact List.forall_mem_singleton.mpr (hpaths hwritten)
  · rw [if_neg hverbose]
    simp

/-- Warnings have no tags if the source extension has none. -/
theorem isTagless_warnings {settings : Settings}
    (h : ∀ x ∈ settings.extension?, ∃ u, x = RawText.ofText u ∧ IsTagless u) :
    ∀ w ∈ settings.warnings?.getD [], ∃ u, w = RawText.ofText u ∧ IsTagless u := by
  rw [warnings?]
  cases hextension : settings.extension? with
  | none => exact fun w hw => absurd hw List.not_mem_nil
  | some x =>
    obtain ⟨u, rfl, hu⟩ := h x hextension
    refine List.forall_mem_append.mpr ⟨List.forall_mem_append.mpr ⟨?_, ?_⟩, ?_⟩
    · split_ifs
      · simp
      · exact List.forall_mem_singleton.mpr ⟨_, (RawText.ofText_append _ _).symm,
          isTagless_behind (by decide) (by decide) hu⟩
    · split_ifs
      · simp
      · exact List.forall_mem_singleton.mpr ⟨_, rfl, by decide +kernel⟩
    · split_ifs
      · simp
      · exact List.forall_mem_singleton.mpr ⟨_, rfl, by decide +kernel⟩

/-- Every line of a run can be printed if all that they quote are texts without tags. -/
theorem Arguments.isPrintable_of_mem_lines
    (h : ∀ q ∈ a.quotes files here, ∃ u, q = RawText.ofText u ∧ IsTagless u) :
    ∀ line ∈ a.lines files here, IsPrintable line := by
  rw [Arguments.quotes] at h
  rw [Arguments.lines]
  cases hsettings : a.settings files here with
  | error e =>
    simp only [hsettings, List.forall_mem_singleton] at h ⊢
    obtain ⟨u, hmessage, hu⟩ := h
    exact isPrintable_errorLine hmessage hu
  | ok settings =>
    simp only [hsettings, List.forall_mem_append] at h ⊢
    obtain ⟨hextension, hreport⟩ := h
    have hwarnings := isTagless_warnings fun x hx => hextension x (Option.mem_toList.mpr hx)
    refine ⟨List.forall_mem_map.mpr fun w hw => ?_, ?_⟩
    · obtain ⟨u, rfl, hu⟩ := hwarnings w hw
      exact isPrintable_warningLine hu
    have hquoted {u : Text} (hu : ∃ v, RawText.ofText u = RawText.ofText v ∧ IsTagless v) :
        IsTagless u := by
      obtain ⟨v, heq, hv⟩ := hu
      rwa [RawText.ofText_inj.mp heq]
    cases hconverted : converted settings files here with
    | error e =>
      simp only [hconverted, List.forall_mem_singleton] at hreport
      exact List.forall_mem_singleton.mpr (isPrintable_failureLine (hquoted hreport))
    | ok c =>
      simp only [hconverted, List.forall_mem_map, List.forall_mem_cons] at hreport
      refine List.forall_mem_map.mpr (isPrintable_summary (hquoted hreport.1) fun hverbose => ?_)
      rw [if_pos hverbose] at hreport
      simp only [List.forall_mem_cons, List.forall_mem_map] at hreport
      exact ⟨hquoted hreport.2.1, fun p hp => hquoted (hreport.2.2 p hp)⟩

/-! ## How a run ends -/

/-- How a run ends that writes no log file. Nothing escapes it but what `Escapes` lists. Otherwise
all its lines are shown, and it ends with code 0 if the conversion succeeds, and else with code 1
and a line that reports an error. Lines that quote only texts without tags can always be shown. -/
theorem run_ending {args : List Text} (hread : Arguments.read args = .ok a)
    (hlog : Model.given a.logFile = none) :
    ((∃ e, (run args files here).ending = .escaped e) ↔ a.Escapes files here)
    ∧ (¬a.Escapes files here →
      (a.Converts files here → (run args files here).ending = .finished 0)
      ∧ (¬a.Converts files here → (run args files here).ending = .finished 1
        ∧ ∃ line ∈ a.lines files here, (∃ e, line = errorLine e) ∨ ∃ e, line = failureLine e)
      ∧ ∃ shown, List.Forall₂ (fun line t => showLine line = .ok t) (a.lines files here) shown
        ∧ (run args files here).output = shown.flatMap (· ++ ['\n']))
    ∧ ((∀ q ∈ a.quotes files here, ∃ u, q = RawText.ofText u ∧ IsTagless u) →
      ∀ line ∈ a.lines files here, IsPrintable line) := by
  obtain ⟨hescapes, hends⟩ := @runArguments_ending a files here hlog
  have hrun : run args files here = runArguments a files here := by rw [run, hread]
  rw [hrun]
  refine ⟨hescapes, fun hnone => ?_, Arguments.isPrintable_of_mem_lines⟩
  obtain ⟨hending, hprinted⟩ := hends hnone
  refine ⟨fun h => ?_, fun h => ⟨?_, exists_error_line h⟩, printed_eq_iff.mp hprinted⟩
  · rw [hending, code_of_converts h]
  · rw [hending, code_of_not_converts h]

/-- Arguments that name a settings file and nothing else. -/
def named : Arguments := { config := some "c.json".toList }

/-- A settings file that is not there is reported. -/
theorem run_ending_missing : Arguments.read ["--config".toList, "c.json".toList] = .ok named
    ∧ Model.given named.logFile = none
    ∧ (run ["--config".toList, "c.json".toList] {} (Path.ofText ['/'])).ending = .finished 1 := by
  have hread : Arguments.read ["--config".toList, "c.json".toList] = .ok named := by
    decide +kernel
  have hsettings : named.settings {} (Path.ofText ['/'])
      = .error (.notFound (Path.ofText "c.json".toList)) := rfl
  have hquotes : ∀ q ∈ named.quotes {} (Path.ofText ['/']),
      ∃ u, q = RawText.ofText u ∧ IsTagless u := by
    rw [Arguments.quotes, hsettings]
    exact List.forall_mem_singleton.mpr ⟨_, rfl, by decide +kernel⟩
  have hconverts : ¬named.Converts {} (Path.ofText ['/']) := by
    rintro ⟨settings, c, hsome, -⟩
    rw [hsettings] at hsome
    cases hsome
  obtain ⟨-, hends, hprintable⟩ := @run_ending named {} (Path.ofText ['/']) _ hread rfl
  have hescapes : ¬named.Escapes {} (Path.ofText ['/']) := by
    rintro (⟨hname, hunread⟩ | ⟨hsome, -⟩ | ⟨hline, hbad⟩)
    · have hsame : named.settings {} (Path.ofText ['/']) = .error _ := hunread.load hname
      obtain rfl := Except.error.inj (hsame.symm.trans hsettings)
      exact hunread.not_isOfSettings trivial
    · rw [hsettings] at hsome
      cases hsome
    · exact hbad (hprintable hquotes _ hline)
  exact ⟨hread, rfl, ((hends hescapes).2.1 hconverts).1⟩

/-- A settings file whose bytes are no text is not reported. -/
theorem undecodable_escapes : Arguments.read ["--config".toList, "c.json".toList] = .ok named
    ∧ Model.given named.logFile = none
    ∧ ∃ e, (run ["--config".toList, "c.json".toList]
      ⟨[(["c.json".toList], .file [0x7B, 0x22, 0xE9, 0x22])]⟩ (Path.ofText ['/'])).ending
        = .escaped e := by
  have hread : Arguments.read ["--config".toList, "c.json".toList] = .ok named := by
    decide +kernel
  have hunread : Unread ⟨[(["c.json".toList], .file [0x7B, 0x22, 0xE9, 0x22])]⟩
      (Path.ofText ['/']) (Path.ofText "c.json".toList)
      (.undecodable (Path.ofText "c.json".toList)) :=
    .undecodable (by decide) rfl (by decide)
  refine ⟨hread, rfl, .settings (.undecodable (Path.ofText "c.json".toList)), ?_⟩
  rw [run, hread]
  exact runArguments_of_unread rfl rfl hunread

end Typings.CommandLine
