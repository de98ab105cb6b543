import Mathlib.Data.List.Basic
import Mathlib.Data.List.Induction
import Typings.Model.Registry

/-!
# Growing a registry

What a builder remembers of the names it has seen is what a look-up among the files added so far
would find. It grows until it is frozen for the first time; from then on it refuses every file, and
every registry that it hands out has the files from before.
-/

namespace Typings

open Text

/-! ## Look-ups -/

namespace Registry

/-- Of the files with one name the last is found. -/
theorem find?_eq_some_iff {r : Registry} {name : Text} {file : SourceFile} :
    r.find? name = some file ↔ file.name = name ∧ ∃ before after,
      r.entries = before ++ file :: after ∧ ∀ other ∈ after, other.name ≠ name := by
  rw [find?, lastNamed?, List.find?_eq_some_iff_append]
  constructor
  · rintro ⟨hname, before, after, heq, hbefore⟩
    refine ⟨by simpa using hname, after.reverse, before.reverse, ?_, ?_⟩
    · rw [← List.reverse_reverse r.entries, heq]
      simp
    · simpa using hbefore
  · rintro ⟨hname, before, after, heq, hafter⟩
    refine ⟨by simpa using hname, after.reverse, before.reverse, ?_, ?_⟩
    · rw [heq]
      simp
    · simpa using hafter

theorem find?_eq_none_iff {r : Registry} {name : Text} : r.find? name = none ↔ name ∉ r.names := by
  simp [find?, lastNamed?, names]

/-- One more file is found under its own name, and changes nothing under any other. -/
theorem lastNamed?_concat (name : Text) (files : List SourceFile) (file : SourceFile) :
    lastNamed? name (files ++ [file])
      = if file.name = name then some file else lastNamed? name files := by
  rw [lastNamed?, List.reverse_append, List.reverse_singleton, List.singleton_append]
  by_cases h : file.name = name
  · rw [List.find?_cons_of_pos (by simpa using h), if_pos h]
  · rw [List.find?_cons_of_neg (by simpa using h), if_neg h, lastNamed?]

end Registry

namespace RegistryBuilder

/-! ## What a builder remembers -/

/-- Whether a builder remembers the last file under every name that it has a file for. -/
def Remembers (b : RegistryBuilder) : Prop :=
  ∀ name, b.seen.lookup name = Registry.lastNamed? name b.entries

theorem remembers_new : Remembers {} := fun _ => rfl

variable {b b' : RegistryBuilder}

/-- A builder that is not frozen takes every file. It warns of one whose name is found already, and
names the file that is found. -/
theorem add_of_remembers (hb : b.Remembers) (hfrozen : b.frozen = false) (file : SourceFile) :
    ∃ b', b.add file
        = .ok (b', (Registry.lastNamed? file.name b.entries).map (duplicateWarning file))
      ∧ b'.entries = b.entries ++ [file] ∧ b'.frozen = false ∧ b'.Remembers := by
  refine ⟨{ b with entries := b.entries ++ [file], seen := (file.name, file) :: b.seen },
    by simp [add, hfrozen, hb file.name], rfl, hfrozen, fun name => ?_⟩
  rw [Registry.lastNamed?_concat, List.lookup_cons]
  by_cases h : file.name = name
  · simp [h]
  · have hbeq : (name == file.name) = false := beq_eq_false_iff_ne.mpr (Ne.symm h)
    rw [hbeq, if_neg h]
    exact hb name

theorem add_of_frozen (hfrozen : b.frozen = true) (file : SourceFile) :
    b.add file = .error .frozen := by
  rw [add, if_pos hfrozen]

/-- Growing by some files puts them behind those that are there. -/
theorem entries_grow (hb : b.Remembers) (hfrozen : b.frozen = false) (files : List SourceFile)
    (said : List Text) : (files.foldl grow (b, said)).1.entries = b.entries ++ files := by
  induction files generalizing b said with
  | nil => simp
  | cons file files ih =>
    obtain ⟨b', hadd, hentries, hfrozen', hb'⟩ := add_of_remembers hb hfrozen file
    rw [List.foldl_cons, grow, hadd]
    dsimp only
    rw [ih hb' hfrozen', hentries]
    simp

/-! ## Requests -/

/-- What is asked of a builder. -/
inductive Request where
  | add (file : SourceFile)
  | freeze
  deriving DecidableEq

/-- What a builder answers. -/
inductive Answer where
  | added (warning : Option Text)
  | refused (error : Error)
  | handedOut (registry : Registry)
  deriving DecidableEq

/-- The answer to a request, and the builder after it. -/
def answer (b : RegistryBuilder) : Request → Answer × RegistryBuilder
  | .add file =>
    match b.add file with
    | .ok (b', warning) => (.added warning, b')
    | .error e => (.refused e, b)
  | .freeze => (.handedOut b.freeze.2, b.freeze.1)

/-- The answers to requests, one after the other, and the builder after all of them. -/
def answers (b : RegistryBuilder) : List Request → List Answer × RegistryBuilder
  | [] => ([], b)
  | request :: rest =>
    let (first, b') := b.answer request
    let (others, b'') := b'.answers rest
    (first :: others, b'')

theorem answers_concat (b : RegistryBuilder) (requests : List Request) (request : Request) :
    b.answers (requests ++ [request])
      = ((b.answers requests).1 ++ [((b.answers requests).2.answer request).1],
        ((b.answers requests).2.answer request).2) := by
  induction requests generalizing b with
  | nil => rfl
  | cons first rest ih => simp [answers, ih]

/-- The files that are added before the first freeze. -/
def collected : List Request → List SourceFile
  | .add file :: rest => file :: collected rest
  | _ => []

theorem collected_append_of_freeze {requests : List Request} (h : Request.freeze ∈ requests)
    (more : List Request) : collected (requests ++ more) = collected requests := by
  induction requests with
  | nil => simp at h
  | cons request rest ih =>
    cases request with
    | add file => simpa [collected] using ih (by simpa using h)
    | freeze => rfl

theorem collected_append_of_not_freeze {requests : List Request} (h : Request.freeze ∉ requests)
    (more : List Request) :
    collected (requests ++ more) = collected requests ++ collected more := by
  induction requests with
  | nil => rfl
  | cons request rest ih =>
    cases request with
    | add file => simpa [collected] using ih (fun hmem => h (List.mem_cons_of_mem _ hmem))
    | freeze => simp at h

theorem mem_collected_of_not_freeze {requests : List Request} (h : Request.freeze ∉ requests)
    {file : SourceFile} : file ∈ collected requests ↔ Request.add file ∈ requests := by
  induction requests with
  | nil => simp [collected]
  | cons request rest ih =>
    cases request with
    | add first => simp [collected, ih (fun hmem => h (List.mem_cons_of_mem _ hmem))]
    | freeze => simp at h

/-- What a builder is like after some requests. -/
structure Follows (requests : List Request) (b : RegistryBuilder) : Prop where
  entries : b.entries = collected requests
  remembers : b.Remembers
  frozen : b.frozen = true ↔ Request.freeze ∈ requests

namespace Follows

variable {requests : List Request}

/-- Before it is frozen, a builder adds each file, with a warning if there is one of that name. -/
theorem answer_add (h : Follows requests b) (hfree : Request.freeze ∉ requests)
    (file : SourceFile) :
    ∃ b', b.answer (.add file) = (.added ((Registry.lastNamed? file.name
        (collected requests)).map (duplicateWarning file)), b')
      ∧ Follows (requests ++ [Request.add file]) b' := by
  have hfrozen : b.frozen = false := Bool.eq_false_iff.mpr fun htrue => hfree (h.frozen.mp htrue)
  obtain ⟨b', hadd, hentries, hfrozen', hb'⟩ := add_of_remembers h.remembers hfrozen file
  refine ⟨b', by rw [answer, hadd, h.entries], ?_, hb', by simpa [hfrozen'] using hfree⟩
  rw [hentries, h.entries, collected_append_of_not_freeze hfree]
  rfl

/-- Once it was frozen, a builder refuses each file and stays as it is. -/
theorem answer_add_of_freeze (h : Follows requests b) (hfreeze : Request.freeze ∈ requests)
    (file : SourceFile) :
    b.answer (.add file) = (.refused .frozen, b) ∧ Follows (requests ++ [Request.add file]) b := by
  refine ⟨by rw [answer, add_of_frozen (h.frozen.mpr hfreeze)], ?_, h.remembers, ?_⟩
  · rw [h.entries, collected_append_of_freeze hfreeze]
  · simpa using h.frozen

/-- Each time it is frozen, a builder hands out the registry of what it has. -/
theorem answer_freeze (h : Follows requests b) :
    ∃ b', b.answer .freeze = (.handedOut { entries := collected requests }, b')
      ∧ Follows (requests ++ [Request.freeze]) b' := by
  refine ⟨b.freeze.1, by rw [answer, freeze, h.entries], ?_, h.remembers, by simp [freeze]⟩
  rw [freeze, h.entries]
  by_cases hfreeze : Request.freeze ∈ requests
  · rw [collected_append_of_freeze hfreeze]
  · rw [collected_append_of_not_freeze hfreeze]
    simp [collected]

theorem concat (h : Follows requests b) (request : Request) :
    Follows (requests ++ [request]) (b.answer request).2 := by
  cases request with
  | add file =>
    by_cases hfreeze : Request.freeze ∈ requests
    · obtain ⟨hanswer, hnext⟩ := h.answer_add_of_freeze hfreeze file
      rwa [hanswer]
    · obtain ⟨b', hanswer, hnext⟩ := h.answer_add hfreeze file
      rwa [hanswer]
  | freeze =>
    obtain ⟨b', hanswer, hnext⟩ := h.answer_freeze
    rwa [hanswer]

end Follows

/-- A new builder follows all requests. -/
theorem follows_answers (requests : List Request) : Follows requests (answers {} requests).2 := by
  -- one more request at the end
  induction requests using List.reverseRecOn with
  | nil => exact ⟨rfl, remembers_new, by simp [answers]⟩
  | append_singleton requests request ih =>
    rw [answers_concat]
    exact ih.concat request

/-- Only freezing hands out a registry, with what the builder has. -/
theorem answer_eq_handedOut {request : Request} {r : Registry}
    (h : (b.answer request).1 = .handedOut r) : request = .freeze ∧ r.entries = b.entries := by
  cases request with
  | add file =>
    rw [answer] at h
    split at h <;> cases h
  | freeze =>
    cases h
    exact ⟨rfl, rfl⟩

/-- A registry that was handed out has the files from before the first freeze. -/
theorem entries_of_handedOut {requests : List Request} {r : Registry}
    (h : Answer.handedOut r ∈ (answers {} requests).1) :
    Request.freeze ∈ requests ∧ r.entries = collected requests := by
  induction requests using List.reverseRecOn with
  | nil => simp [answers] at h
  | append_singleton requests request ih =>
    rw [answers_concat, List.mem_append, List.mem_singleton] at h
    rcases h with h | h
    · obtain ⟨hfreeze, hentries⟩ := ih h
      exact ⟨List.mem_append_left _ hfreeze,
        by rw [hentries, collected_append_of_freeze hfreeze]⟩
    · obtain ⟨rfl, hentries⟩ := answer_eq_handedOut h.symm
      have hafter := ((follows_answers requests).concat .freeze).entries
      exact ⟨by simp, hentries.trans hafter⟩

/-- Every registry that is handed out has exactly the files that were added before the first freeze,
and finds the last of those with a name. From the first freeze on files are refused, and nothing
changes. Up to then a file is added with a warning if one of its name was added before, and what
the warning names is what would be found under that name. -/
theorem answers_to_requests (requests : List Request) :
    (∀ r, Answer.handedOut r ∈ (answers {} requests).1 →
      r.entries = collected requests ∧ ∀ name,
        (r.find? name = none ↔ ∀ file ∈ collected requests, file.name ≠ name)
        ∧ ∀ file, r.find? name = some file ↔ file.name = name ∧ ∃ before later,
          collected requests = before ++ file :: later ∧ ∀ other ∈ later, other.name ≠ name)
    ∧ (answers {} (requests ++ [Request.freeze])).1
      = (answers {} requests).1 ++ [Answer.handedOut { entries := collected requests }]
    ∧ (∀ file, Request.freeze ∈ requests → answers {} (requests ++ [Request.add file])
        = ((answers {} requests).1 ++ [Answer.refused .frozen], (answers {} requests).2))
    ∧ (∀ file, Request.freeze ∉ requests → ∃ warning,
        (answers {} (requests ++ [Request.add file])).1
          = (answers {} requests).1 ++ [Answer.added warning]
        ∧ warning = (Registry.find? { entries := collected requests } file.name).map
          (duplicateWarning file)
        ∧ (warning ≠ none ↔
          ∃ earlier, Request.add earlier ∈ requests ∧ earlier.name = file.name)) := by
  have hfollows := follows_answers requests
  refine ⟨fun r hr => ?_, ?_, fun file hfreeze => ?_, fun file hfree => ?_⟩
  · obtain ⟨-, hentries⟩ := entries_of_handedOut hr
    refine ⟨hentries, fun name => ⟨?_, fun file => ?_⟩⟩
    · rw [Registry.find?_eq_none_iff, Registry.names, hentries]
      simp
    · rw [Registry.find?_eq_some_iff, hentries]
  · obtain ⟨b', hanswer, -⟩ := hfollows.answer_freeze
    rw [answers_concat, hanswer]
  · obtain ⟨hanswer, -⟩ := hfollows.answer_add_of_freeze hfreeze file
    rw [answers_concat, hanswer]
  · obtain ⟨b', hanswer, -⟩ := hfollows.answer_add hfree file
    refine ⟨_, ?_, rfl, ?_⟩
    · rw [answers_concat, hanswer]
      rfl
    · rw [ne_eq, Option.map_eq_none_iff, Registry.find?_eq_none_iff, not_not, Registry.names,
        List.mem_map]
      exact exists_congr fun earlier => and_congr_left fun _ => mem_collected_of_not_freeze hfree

/-- A file of the given name in a folder below `/src`. -/
def fileIn (folder name : Text) : SourceFile :=
  { name, folder, root := Path.ofText "/src".toList
    path := ⟨.absolute, ["src".toList, folder, name ++ ".cs".toList]⟩ }

/-- An order, an item, and an order again. -/
def doubled : List Request :=
  [Request.add (fileIn "old".toList "Order".toList), .add (fileIn "old".toList "Item".toList),
    .add (fileIn "new".toList "Order".toList)]

/-- A registry that is handed out before and after a file is refused finds the second order, and a
warning names the first. -/
theorem answers_to_requests_doubled :
    (Answer.handedOut { entries := collected doubled }
        ∈ (answers {} (doubled ++ [Request.freeze, .add (fileIn "late".toList "Order".toList)])).1
      ∧ Registry.find? { entries := collected doubled } "Order".toList
        = some (fileIn "new".toList "Order".toList))
    ∧ (Request.freeze ∈ doubled ++ [Request.freeze]
      ∧ answers {} (doubled ++ [Request.freeze]
          ++ [Request.add (fileIn "late".toList "Order".toList)])
        = ((answers {} (doubled ++ [Request.freeze])).1 ++ [Answer.refused .frozen],
          (answers {} (doubled ++ [Request.freeze])).2))
    ∧ (Request.freeze ∉ doubled.dropLast ∧ ∃ warning,
      (answers {} (doubled.dropLast ++ [Request.add (fileIn "new".toList "Order".toList)])).1
        = (answers {} doubled.dropLast).1 ++ [Answer.added warning]
      ∧ warning = some (duplicateWarning (fileIn "new".toList "Order".toList)
        (fileIn "old".toList "Order".toList))) := by
  have hout : Answer.handedOut { entries := collected doubled }
      ∈ (answers {} (doubled ++ [Request.freeze, .add (fileIn "late".toList "Order".toList)])).1 := by
    decide
  have hfound := ((answers_to_requests _).1 _ hout).2 "Order".toList
  obtain ⟨warning, hadded, hwarning, -⟩ := (answers_to_requests doubled.dropLast).2.2.2
    (fileIn "new".toList "Order".toList) (by decide)
  refine ⟨⟨hout, (hfound.2 _).mpr ⟨by decide, ?_⟩⟩,
    ⟨by decide, (answers_to_requests (doubled ++ [Request.freeze])).2.2.1 _ (by decide)⟩,
    ⟨by decide, warning, hadded, ?_⟩⟩
  · exact ⟨(collected doubled).dropLast, [], by decide, by simp⟩
  · rw [hwarning]
    decide

end RegistryBuilder

/-- The registry of some files has all of them, in their order. -/
theorem Registry.entries_ofFiles (files : List SourceFile) :
    (Registry.ofFiles files).1.entries = files := by
  rw [Registry.ofFiles]
  exact RegistryBuilder.entries_grow RegistryBuilder.remembers_new rfl files []

end Typings
