import ClauseFlow.Proofs.Command.Steps
import ClauseFlow.Proofs.Parse.Declarations

/-!
# Which files formatting touches

Formatting goes through the files of its target one by one. A file that is read as a module whose
standard form differs from what is read is replaced by that form; every other file stays as it is,
also if formatting is aborted on the way.
-/

namespace ClauseFlow.Command

open Step

/-! ## What becomes of a file -/

/-- What formatting makes of the text of a file that is quoted under a name. -/
inductive Formatted (onlyTell : Bool) (name text : String) : String → Prop where
  | refused {found : List Diagnostic}
      (read : Module.read name (Text.asRead text) = .error (.diagnostics found)) :
      Formatted onlyTell name text text
  | kept {module : Module} (read : Module.read name (Text.asRead text) = .ok module)
      (settled : onlyTell = true ∨ module.print = Text.asRead text) :
      Formatted onlyTell name text text
  | rewritten {module : Module} (read : Module.read name (Text.asRead text) = .ok module)
      (writes : onlyTell = false) (differs : module.print ≠ Text.asRead text) :
      Formatted onlyTell name text module.print

/-- Whether of two trees the second one comes from the first by formatting certain files. -/
structure HasFormatted (onlyTell : Bool) (done : List Target) (before after : FileTree) :
    Prop where
  directories : after.directories = before.directories
  each : ∀ file ∈ done, ∃ text text', before.text? file.place = some text ∧
    Formatted onlyTell file.route.print text text' ∧ after.text? file.place = some text'
  others : ∀ place, place ∉ done.map Target.place → after.text? place = before.text? place

namespace HasFormatted

variable {onlyTell : Bool} {file : Target} {done : List Target} {before after later : FileTree}

theorem none (onlyTell : Bool) (tree : FileTree) : HasFormatted onlyTell [] tree tree where
  directories := rfl
  each := List.forall_mem_nil _
  others _ _ := rfl

/-- A file that is left as it is. -/
theorem same {text : String} (there : before.text? file.place = some text)
    (formatted : Formatted onlyTell file.route.print text text)
    (leaves : after = before) : HasFormatted onlyTell [file] before after where
  directories := by rw [leaves]
  each := List.forall_mem_singleton.mpr ⟨text, text, there, formatted, leaves ▸ there⟩
  others _ _ := by rw [leaves]

/-- A file that is written. -/
theorem write {text text' : String} (there : before.text? file.place = some text)
    (formatted : Formatted onlyTell file.route.print text text') :
    HasFormatted onlyTell [file] before (before.write file.place text') where
  directories := rfl
  each := by
    refine List.forall_mem_singleton.mpr ⟨text, text', there, formatted, ?_⟩
    rw [FileTree.text?_write, if_pos rfl, there]
    rfl
  others place outside := by
    rw [FileTree.text?_write, if_neg (mt List.mem_singleton.mpr outside)]

/-- Files that lie elsewhere are formatted after a file. -/
theorem cons (first : HasFormatted onlyTell [file] before after)
    (rest : HasFormatted onlyTell done after later) (apart : file.place ∉ done.map Target.place) :
    HasFormatted onlyTell (file :: done) before later where
  directories := rest.directories.trans first.directories
  each := by
    refine List.forall_mem_cons.mpr ⟨?_, fun other member => ?_⟩
    · rcases List.forall_mem_singleton.mp first.each with ⟨text, text', there, formatted, left⟩
      exact ⟨text, text', there, formatted, (rest.others _ apart).trans left⟩
    · rcases rest.each other member with ⟨text, text', there, formatted, left⟩
      refine ⟨text, text', ?_, formatted, left⟩
      rw [← there]
      refine (first.others _ fun same => apart ?_).symm
      rw [← List.mem_singleton.mp same]
      exact List.mem_map_of_mem member
  others place outside := by
    rcases not_or.mp (mt List.mem_cons.mpr outside) with ⟨differs, elsewhere⟩
    exact (rest.others place elsewhere).trans (first.others place (by simpa using differs))

end HasFormatted

/-! ## Steps of formatting -/

variable (surroundings : Surroundings)

/-- What is done with a file when what is read of it and its standard form are known. -/
def settle (onlyTell : Bool) (file : Target) (text form : String) : Step (Bool × Bool) :=
  if form = text then return (true, true)
  else if onlyTell then do
    say ("would reformat " ++ file.route.print)
    return (true, false)
  else do
    modify fun ledger => { ledger with tree := ledger.tree.write file.place form }
    say ("formatted " ++ file.route.print)
    return (true, false)

theorem formatFile_eq (settings : Settings) (onlyTell : Bool) (file : Target) :
    formatFile settings onlyTell file = (do
      let text ← textOf file.place
      match ← readOrReport settings.color [] (Module.read file.route.print text) with
      | none => return (false, true)
      | some module =>
          let form ← standardForm module
          settle onlyTell file text form) :=
  rfl

/-- A file that is read is left as it is or written. -/
theorem settle_ends {onlyTell : Bool} {file : Target} {text : String} {module : Module}
    {ledger : Ledger} (there : ledger.tree.text? file.place = some text)
    (read : Module.read file.route.print (Text.asRead text) = .ok module) :
    ∃ answer after, settle onlyTell file (Text.asRead text) module.print surroundings ledger =
      (.ok answer, after) ∧ HasFormatted onlyTell [file] ledger.tree after.tree := by
  rw [settle]
  by_cases standard : module.print = Text.asRead text
  · rw [if_pos standard]
    exact ⟨_, _, rfl, .same there (.kept read (.inr standard)) rfl⟩
  · rw [if_neg standard]
    cases onlyTell with
    | true => exact ⟨_, _, rfl, .same there (.kept read (.inl rfl)) rfl⟩
    | false => exact ⟨_, _, rfl, .write there (.rewritten read rfl standard)⟩

/-- Formatting a file comes to its end, or is aborted before it has written anything. -/
theorem formatFile_ends (settings : Settings) (onlyTell : Bool) (file : Target)
    (ledger : Ledger) :
    (∃ answer after, formatFile settings onlyTell file surroundings ledger = (.ok answer, after) ∧
      HasFormatted onlyTell [file] ledger.tree after.tree) ∨
    ∃ why after, formatFile settings onlyTell file surroundings ledger =
      (.error (.abort why), after) ∧ after.tree = ledger.tree := by
  have textRead := textOf_apply surroundings ledger file.place
  rw [formatFile_eq]
  cases there : ledger.tree.text? file.place with
  | none =>
      rw [there] at textRead
      exact .inr ⟨_, _, bind_of_error textRead _, rfl⟩
  | some text =>
      rw [there] at textRead
      rw [bind_of_ok textRead]
      rcases readOrReport_ends surroundings ledger settings.color []
        (Module.read file.route.print (Text.asRead text)) with ⟨reported, sameTree, reading⟩
      cases read : Module.read file.route.print (Text.asRead text) with
      | error rejection =>
          rw [read] at reading
          cases rejection with
          | diagnostics found =>
              exact .inl ⟨_, _, bind_of_ok reading _, .same there (.refused read) sameTree⟩
          | fault fault => exact .inr ⟨_, _, bind_of_error reading _, sameTree⟩
      | ok module =>
          rw [read] at reading
          rw [bind_of_ok reading]
          have printed := standardForm_apply surroundings reported module
          by_cases written : module.hasNotation = true
          · rw [if_pos written] at printed
            rw [← sameTree] at there ⊢
            rcases settle_ends surroundings there read with
              ⟨answer, after, ends, formatted⟩
            exact .inl ⟨answer, after, (bind_of_ok printed _).trans ends, formatted⟩
          · rw [if_neg written] at printed
            exact .inr ⟨_, _, bind_of_error printed _, sameTree⟩

/-- Formatting files in a row comes to the end, or is aborted behind some of them. -/
theorem formatFiles_end (settings : Settings) (onlyTell : Bool) {files : List Target}
    (apart : (files.map Target.place).Nodup) (ledger : Ledger) :
    ∃ done outcome after, files.mapM (formatFile settings onlyTell) surroundings ledger =
        (outcome, after) ∧ HasFormatted onlyTell done ledger.tree after.tree ∧ done <+: files ∧
      ((∃ answers, outcome = .ok answers ∧ done = files) ∨
        ∃ why, outcome = .error (.abort why)) := by
  induction files generalizing ledger with
  | nil => exact ⟨[], .ok [], ledger, rfl, .none _ _, List.prefix_refl _, .inl ⟨[], rfl, rfl⟩⟩
  | cons file rest ih =>
      rw [List.map_cons, List.nodup_cons] at apart
      rw [List.mapM_cons]
      rcases formatFile_ends surroundings settings onlyTell file ledger with
        ⟨answer, after, ends, formatted⟩ | ⟨why, after, ends, sameTree⟩
      · rcases ih apart.2 after with ⟨done, outcome, last, restEnds, restFormatted, begins, whole⟩
        have elsewhere : file.place ∉ done.map Target.place :=
          fun member => apart.1 ((begins.map Target.place).subset member)
        have both := formatted.cons restFormatted elsewhere
        rw [bind_of_ok ends]
        rcases whole with ⟨answers, rfl, rfl⟩ | ⟨why, rfl⟩
        · exact ⟨_, _, _, bind_of_ok restEnds _, both, List.prefix_refl _, .inl ⟨_, rfl, rfl⟩⟩
        · exact ⟨_, _, _, bind_of_error restEnds _, both,
            (List.prefix_cons_inj file).mpr begins, .inr ⟨why, rfl⟩⟩
      · refine ⟨[], _, after, bind_of_error ends _, ?_, List.nil_prefix, .inr ⟨why, rfl⟩⟩
        rw [sameTree]
        exact .none onlyTell _

/-- Formatting files that are listed, under settings that are loaded. -/
def formatListed (settings : Settings) (onlyTell : Bool) (files : List Target) : Step Unit :=
  if files.isEmpty then complain ("no " ++ moduleEnding ++ " files found")
  else do
    let outcomes ← files.mapM (formatFile settings onlyTell)
    unless outcomes.all fun outcome => outcome.1 && (outcome.2 || !onlyTell) do
      stop 1

theorem performFormat_apply {path : String} {root : Path} {settings : Settings} (onlyTell : Bool)
    (ledger : Ledger) (found : ledger.tree.locate? surroundings.start path = some root)
    (loaded : Settings.governing ledger.tree root = .ok settings) :
    performFormat path onlyTell surroundings ledger =
      formatListed settings onlyTell (modulesOf ledger.tree ⟨Route.ofString path, root⟩)
        surroundings ledger := by
  have located : target path surroundings ledger = (.ok ⟨Route.ofString path, root⟩, ledger) := by
    rw [target_apply, found]
  have governed := settingsFor_apply surroundings ledger ⟨Route.ofString path, root⟩
  rw [loaded] at governed
  rw [performFormat, bind_of_ok located, bind_of_ok governed, bind_of_ok (moduleFiles_apply ..)]
  rfl

/-- Formatting a target comes to its last file, or is aborted. -/
theorem performFormat_ends {path : String} {root : Path} (onlyTell : Bool) (ledger : Ledger)
    (proper : ledger.tree.IsProper)
    (found : ledger.tree.locate? surroundings.start path = some root) :
    ∃ done ending after, performFormat path onlyTell surroundings ledger = (ending, after) ∧
      HasFormatted onlyTell done ledger.tree after.tree ∧
      done <+: modulesOf ledger.tree ⟨Route.ofString path, root⟩ ∧
      (done = modulesOf ledger.tree ⟨Route.ofString path, root⟩ ∨
        ∃ why, ending = .error (.abort why)) := by
  let goal : Target := ⟨Route.ofString path, root⟩
  cases loaded : Settings.governing ledger.tree goal.place with
  | error fault =>
      have located : target path surroundings ledger = (.ok goal, ledger) := by
        rw [target_apply, found]
      have governed := settingsFor_apply surroundings ledger goal
      rw [loaded] at governed
      rw [performFormat, bind_of_ok located]
      exact ⟨[], _, _, bind_of_error governed _, .none _ _, List.nil_prefix, .inr ⟨_, rfl⟩⟩
  | ok settings =>
      rw [performFormat_apply surroundings onlyTell ledger found loaded]
      cases files : modulesOf ledger.tree goal with
      | nil => exact ⟨[], _, _, rfl, .none _ _, List.prefix_refl _, .inl rfl⟩
      | cons file rest =>
          have apart := nodup_modulesOf proper goal
          rw [files] at apart
          rcases formatFiles_end surroundings settings onlyTell apart ledger with
            ⟨done, outcome, after, ends, formatted, begins, whole⟩
          rcases whole with ⟨answers, rfl, all⟩ | ⟨why, rfl⟩
          · have last : ∃ ending, ((unless answers.all (fun outcome =>
                outcome.1 && (outcome.2 || !onlyTell)) do stop 1) : Step Unit) surroundings after =
                  (ending, after) := by
              split
              · exact ⟨_, rfl⟩
              · exact ⟨_, rfl⟩
            rcases last with ⟨ending, last⟩
            exact ⟨done, ending, after, (bind_of_ok ends _).trans last, formatted, begins, .inl all⟩
          · exact ⟨done, _, after, bind_of_error ends _, formatted, begins, .inr ⟨why, rfl⟩⟩

/-! ## Whole commands -/

variable {surroundings : Surroundings}

/-- The outcome of a command is told by what its steps end in. -/
theorem outcome_eq {command : Command} {ending : Except Ending Unit} {after : Ledger}
    (asks : parse? surroundings.arguments = some command)
    (ends : perform command surroundings ⟨"", "", surroundings.tree⟩ = (ending, after)) :
    outcome surroundings =
      match ending with
      | .ok () => ⟨0, after.out, after.err, after.tree, none⟩
      | .error (.status status) => ⟨status, after.out, after.err, after.tree, none⟩
      | .error (.abort why) => ⟨1, after.out, after.err, after.tree, some why⟩ := by
  simp only [outcome, asks, ExceptT.run, ends]
  match ending with
  | .ok () | .error (.status _) | .error (.abort _) => rfl

/-- A command leaves the files that its steps leave, and is aborted if they are. -/
theorem outcome_of_ends {command : Command} {ending : Except Ending Unit} {after : Ledger}
    (asks : parse? surroundings.arguments = some command)
    (ends : perform command surroundings ⟨"", "", surroundings.tree⟩ = (ending, after)) :
    (outcome surroundings).tree = after.tree ∧
      ∀ why, ending = .error (.abort why) → (outcome surroundings).abort? = some why := by
  rw [outcome_eq asks ends]
  match ending with
  | .ok () | .error (.status _) => exact ⟨rfl, nofun⟩
  | .error (.abort why) => exact ⟨rfl, fun other same => by cases same; rfl⟩

/-- A command that formats a target leaves the files of the target formatted, or only the first of
them if it is aborted; it leaves all files as they are if there is no such target. -/
theorem outcome_of_format {path : String} {onlyTell : Bool}
    (asks : parse? surroundings.arguments = some (.format path onlyTell))
    (proper : surroundings.tree.IsProper) :
    (surroundings.tree.locate? surroundings.start path = none ∧
      (outcome surroundings).tree = surroundings.tree) ∨
    ∃ root done, surroundings.tree.locate? surroundings.start path = some root ∧
      HasFormatted onlyTell done surroundings.tree (outcome surroundings).tree ∧
      done <+: modulesOf surroundings.tree ⟨Route.ofString path, root⟩ ∧
      (done = modulesOf surroundings.tree ⟨Route.ofString path, root⟩ ∨
        (outcome surroundings).abort? ≠ none) := by
  cases found : surroundings.tree.locate? surroundings.start path with
  | none =>
      have missed : target path surroundings ⟨"", "", surroundings.tree⟩ =
          (.error (.status 2), ⟨"", "", surroundings.tree⟩) := by
        rw [target_apply, found]
      exact .inl ⟨rfl, (outcome_of_ends asks (bind_of_error missed _)).1⟩
  | some root =>
      rcases performFormat_ends surroundings onlyTell ⟨"", "", surroundings.tree⟩ proper found with
        ⟨done, ending, after, ends, formatted, begins, whole⟩
      rcases outcome_of_ends asks ends with ⟨sameTree, aborted⟩
      refine .inr ⟨root, done, rfl, ?_, begins, whole.imp_right ?_⟩
      · rw [sameTree]
        exact formatted
      · rintro ⟨why, stopped⟩
        rw [aborted why stopped]
        exact Option.some_ne_none why

/-- A command that formats the input leaves all files as they are. -/
theorem tree_of_formatInput {path : String} {onlyTell : Bool}
    (asks : parse? surroundings.arguments = some (.formatInput path onlyTell)) :
    (outcome surroundings).tree = surroundings.tree := by
  have leaves := leavesFiles_performFormatInput path onlyTell surroundings
    ⟨"", "", surroundings.tree⟩
  exact (outcome_of_ends asks rfl).1.trans leaves

/-- A command that is not understood leaves all files as they are. -/
theorem tree_of_parse?_eq_none (unknown : parse? surroundings.arguments = none) :
    (outcome surroundings).tree = surroundings.tree := by
  simp only [outcome, unknown]
  rfl

/-! ## What is asked for -/

/-- The flags that formatting knows. -/
def formatFlags : List String :=
  ["--check", "--stdin"]

theorem parse?_format_eq (rest : List String) :
    parse? ("format" :: rest) =
      if (separate rest).1.all formatFlags.contains then
        (path? (separate rest).2).map fun path =>
          (if (separate rest).1.contains "--stdin" then Command.formatInput else Command.format)
            path ((separate rest).1.contains "--check")
      else none :=
  rfl

/-- Formatting a target and no more is asked for by no flag at all; the other requests that begin in
`format` are for the input, or are not understood. -/
theorem parse?_format (rest : List String) :
    (parse? ("format" :: rest) = none ∧
      ((separate rest).1 = [] → path? (separate rest).2 = none)) ∨
    ∃ path onlyTell, path? (separate rest).2 = some path ∧
      ((parse? ("format" :: rest) = some (.formatInput path onlyTell) ∧ (separate rest).1 ≠ []) ∨
        (parse? ("format" :: rest) = some (.format path onlyTell) ∧
          (onlyTell = false ↔ (separate rest).1 = []))) := by
  rw [parse?_format_eq]
  by_cases known : (separate rest).1.all formatFlags.contains = true
  · rw [if_pos known]
    cases named : path? (separate rest).2 with
    | none => exact .inl ⟨rfl, fun _ => rfl⟩
    | some path =>
        refine .inr ⟨path, (separate rest).1.contains "--check", rfl, ?_⟩
        by_cases input : (separate rest).1.contains "--stdin" = true
        · rw [if_pos input]
          refine .inl ⟨rfl, fun none => ?_⟩
          rw [none] at input
          cases input
        · rw [if_neg input]
          refine .inr ⟨rfl, fun noCheck => ?_, fun none => by rw [none]; rfl⟩
          -- A known flag that is neither of the two.
          refine List.eq_nil_iff_forall_not_mem.mpr fun flag member => ?_
          have isKnown := List.all_eq_true.mp known flag member
          simp only [formatFlags, List.contains_iff_mem, List.mem_cons, List.not_mem_nil,
            or_false] at isKnown
          rcases isKnown with rfl | rfl
          · rw [List.contains_iff_mem.mpr member] at noCheck
            cases noCheck
          · exact input (List.contains_iff_mem.mpr member)
  · rw [if_neg known]
    refine .inl ⟨rfl, fun none => absurd ?_ known⟩
    rw [none]
    rfl

/-! ## What changes -/

/-- Whether a target that is written as `path` stands for a file which is read as a module whose
standard form is `form` and differs from what is read. -/
def Rewrites (surroundings : Surroundings) (path : String) (place : Path) (form : String) : Prop :=
  ∃ root text module, surroundings.tree.locate? surroundings.start path = some root ∧
    IsModuleOf surroundings.tree root place ∧ surroundings.tree.text? place = some text ∧
    Module.read (quotedName path root place) (Text.asRead text) = .ok module ∧
    module.print = form ∧ form ≠ Text.asRead text

variable {path : String} {onlyTell : Bool} {place : Path}

theorem directories_of_format
    (asks : parse? surroundings.arguments = some (.format path onlyTell))
    (proper : surroundings.tree.IsProper) :
    (outcome surroundings).tree.directories = surroundings.tree.directories := by
  rcases outcome_of_format asks proper with ⟨_, same⟩ | ⟨_, _, _, formatted, _⟩
  · rw [same]
  · exact formatted.directories

/-- What a command that formats a target changes is rewritten. -/
theorem rewrites_of_changed (asks : parse? surroundings.arguments = some (.format path onlyTell))
    (proper : surroundings.tree.IsProper)
    (changed : (outcome surroundings).tree.text? place ≠ surroundings.tree.text? place) :
    onlyTell = false ∧ ∃ form, Rewrites surroundings path place form ∧
      (outcome surroundings).tree.text? place = some form := by
  rcases outcome_of_format asks proper with ⟨_, same⟩ | ⟨root, done, found, formatted, begins, _⟩
  · rw [same] at changed
    exact absurd rfl changed
  · by_cases member : place ∈ done.map Target.place
    · rcases List.mem_map.mp member with ⟨file, isDone, rfl⟩
      have listed := begins.subset isDone
      rcases formatted.each file isDone with ⟨text, text', there, formatting, left⟩
      rw [print_route_of_mem_modulesOf listed] at formatting
      have isModule : IsModuleOf surroundings.tree root file.place := by
        have isFile : surroundings.tree.isFile file.place = true := by
          rw [FileTree.isFile, there]
          rfl
        exact (mem_places_modulesOf isFile).mp (List.mem_map_of_mem listed)
      cases formatting with
      | refused | kept => exact absurd (left.trans there.symm) changed
      | rewritten read writes differs =>
          exact ⟨writes, _, ⟨root, text, _, found, isModule, there, read, rfl, differs⟩, left⟩
    · exact absurd (formatted.others place member) changed

/-- What has to be rewritten is, unless the command is aborted. -/
theorem text?_of_rewrites (asks : parse? surroundings.arguments = some (.format path false))
    (proper : surroundings.tree.IsProper) (unaborted : (outcome surroundings).abort? = none)
    {form : String} (rewrites : Rewrites surroundings path place form) :
    (outcome surroundings).tree.text? place = some form := by
  rcases rewrites with ⟨root, text, module, found, isModule, there, read, rfl, differs⟩
  rcases outcome_of_format asks proper with ⟨missed, _⟩ | ⟨root', done, found', formatted, _, whole⟩
  · rw [found] at missed
    cases missed
  · obtain rfl : root = root' := Option.some.inj (found.symm.trans found')
    obtain rfl := whole.resolve_right (not_not_intro unaborted)
    have isFile : surroundings.tree.isFile place = true := by
      rw [FileTree.isFile, there]
      rfl
    have listed : place ∈ (modulesOf surroundings.tree ⟨Route.ofString path, root⟩).map
        Target.place :=
      (mem_places_modulesOf isFile).mpr isModule
    rcases List.mem_map.mp listed with ⟨file, member, rfl⟩
    rcases formatted.each file member with ⟨text', left, there', formatting, leaves⟩
    obtain rfl : text = text' := Option.some.inj (there.symm.trans there')
    rw [print_route_of_mem_modulesOf member] at formatting
    rw [leaves]
    cases formatting with
    | refused read' =>
        rw [read] at read'
        cases read'
    | kept read' settled =>
        rw [read] at read'
        cases read'
        exact absurd (settled.resolve_left Bool.false_ne_true) differs
    | rewritten read' =>
        rw [read] at read'
        cases read'
        rfl

/-- However formatting is asked for and however it ends, it changes no directory, and a file only if
there is no flag, the file is one of the target's, it is read as a module, and the standard form of
that differs from what is read. What it then holds is this form of its own text. A run that is not
aborted does change all these files. -/
theorem format_touches_only (surroundings : Surroundings) (proper : surroundings.tree.IsProper)
    {rest : List String} (asks : surroundings.arguments = "format" :: rest) (place : Path) :
    let flags := (separate rest).1
    let ended := outcome surroundings
    ended.tree.directories = surroundings.tree.directories ∧
      (ended.tree.text? place ≠ surroundings.tree.text? place →
        flags = [] ∧ ∃ path form, path? (separate rest).2 = some path ∧
          Rewrites surroundings path place form ∧ ended.tree.text? place = some form) ∧
      (flags = [] → ended.abort? = none → ∀ path form, path? (separate rest).2 = some path →
        Rewrites surroundings path place form → ended.tree.text? place = some form) := by
  intro flags ended
  have understood : parse? surroundings.arguments = parse? ("format" :: rest) := by rw [asks]
  -- A run that leaves the tree as it is, and was asked for by flags or names no path.
  have untouched (same : ended.tree = surroundings.tree)
      (notAsked : flags = [] → path? (separate rest).2 = none) :
      ended.tree.directories = surroundings.tree.directories ∧
        (ended.tree.text? place ≠ surroundings.tree.text? place →
          flags = [] ∧ ∃ path form, path? (separate rest).2 = some path ∧
            Rewrites surroundings path place form ∧ ended.tree.text? place = some form) ∧
        (flags = [] → ended.abort? = none → ∀ path form, path? (separate rest).2 = some path →
          Rewrites surroundings path place form → ended.tree.text? place = some form) := by
    refine ⟨by rw [same], fun changed => absurd (by rw [same]) changed, ?_⟩
    intro noFlag _ path form named
    rw [notAsked noFlag] at named
    cases named
  rcases parse?_format rest with ⟨unknown, noPath⟩ | ⟨path, onlyTell, named, input | targets⟩
  · exact untouched (tree_of_parse?_eq_none (understood.trans unknown)) noPath
  · exact untouched (tree_of_formatInput (understood.trans input.1)) fun none => absurd none input.2
  · rcases targets with ⟨isFormat, writes⟩
    have isAsked := understood.trans isFormat
    refine ⟨directories_of_format isAsked proper, fun changed => ?_, ?_⟩
    · rcases rewrites_of_changed isAsked proper changed with ⟨noTell, form, rewrites, left⟩
      exact ⟨writes.mp noTell, path, form, named, rewrites, left⟩
    · intro noFlag unaborted path' form named' rewrites
      rw [writes.mpr noFlag] at isAsked
      obtain rfl : path = path' := Option.some.inj (named.symm.trans named')
      exact text?_of_rewrites isAsked proper unaborted rewrites

/-- A directory with two modules that are not in standard form, between them a text that is refused
and a module in standard form, and a file that is no module. Another module is beside it. -/
def scattered : Surroundings where
  arguments := ["format", "lib"]
  input := ""
  tree := ⟨[(["lib", "a.pipe"], "def f( x )->x\n"), (["lib", "b.pipe"], "def g( x\n"),
      (["lib", "c.pipe"], "def h(x) -> x\n"), (["lib", "deep", "d.pipe"], "def k( x )->x\n"),
      (["lib", "notes.txt"], "def m( x )->x\n"), (["main.pipe"], "def n( x )->x\n")],
    [["lib"], ["lib", "deep"]]⟩
  start := []
  colorOut := false
  colorErr := false

theorem below_scattered :
    scattered.tree.below ["lib"] moduleEnding =
      [["a.pipe"], ["b.pipe"], ["c.pipe"], ["deep", "d.pipe"]] := by
  let names : List Path := [["a.pipe"], ["b.pipe"], ["c.pipe"], ["deep", "d.pipe"]]
  have sorted : names.Pairwise fun first second => FileTree.comesFirst first second = true := by
    decide +kernel
  refine Eq.trans ?_ (List.mergeSort_of_pairwise sorted)
  exact congrArg (List.mergeSort · FileTree.comesFirst) (by decide +kernel)

/-- The text that is refused does not abort the run. -/
theorem ends_scattered :
    (outcome scattered).abort? = none ∧ (outcome scattered).status = 1 := by
  have asks : parse? scattered.arguments = some (.format "lib" false) := by decide +kernel
  have located : scattered.tree.locate? scattered.start "lib" = some ["lib"] := by decide +kernel
  have loaded : Settings.governing scattered.tree ["lib"] = .ok .standard := by rfl
  have isDirectory : scattered.tree.isDirectory ["lib"] = true := by decide +kernel
  have whole := performFormat_apply scattered false ⟨"", "", scattered.tree⟩ located loaded
  rw [modulesOf, if_pos isDirectory, below_scattered] at whole
  have stops : (performFormat "lib" false scattered ⟨"", "", scattered.tree⟩).1 =
      .error (.status 1) := by
    rw [whole]
    decide +kernel
  rw [outcome_eq asks (Prod.ext stops rfl)]
  exact ⟨rfl, rfl⟩

/-- What is formatted are the two modules that are not in standard form. -/
theorem format_touches_only_scattered :
    (outcome scattered).abort? = none ∧ (outcome scattered).status = 1 ∧
      (outcome scattered).tree.text? ["lib", "a.pipe"] = some "def f(x) -> x\n" ∧
      (outcome scattered).tree.text? ["lib", "deep", "d.pipe"] = some "def k(x) -> x\n" ∧
      ∀ place, place ≠ ["lib", "a.pipe"] → place ≠ ["lib", "deep", "d.pipe"] →
        (outcome scattered).tree.text? place = scattered.tree.text? place := by
  have proper : scattered.tree.IsProper := ⟨by decide, by decide +kernel⟩
  have asks : scattered.arguments = "format" :: ["lib"] := rfl
  have located : scattered.tree.locate? scattered.start "lib" = some ["lib"] := by decide +kernel
  have isDirectory : scattered.tree.isDirectory ["lib"] = true := by decide +kernel
  have formatted {place : Path} (text : String) {form : String}
      (below : FileTree.isBelow ["lib"] moduleEnding place = true)
      (there : scattered.tree.text? place = some text)
      (found : (Module.read (quotedName "lib" ["lib"] place) (Text.asRead text)).toOption.any
        (fun module => decide (module.print = form)) = true)
      (differs : form ≠ Text.asRead text) :
      (outcome scattered).tree.text? place = some form := by
    rcases Module.exists_of_any_read found with ⟨module, read, print⟩
    exact (format_touches_only scattered proper asks place).2.2 rfl ends_scattered.1 "lib" form rfl
      ⟨["lib"], text, module, located, (isModuleOf_of_isDirectory isDirectory).mpr below, there,
        read, of_decide_eq_true print, differs⟩
  refine ⟨ends_scattered.1, ends_scattered.2, ?_, ?_, fun place notFirst notLast => ?_⟩
  · exact formatted "def f( x )->x\n" (by decide +kernel) (by decide +kernel)
      (by decide +kernel) (by decide +kernel)
  · exact formatted "def k( x )->x\n" (by decide +kernel) (by decide +kernel)
      (by decide +kernel) (by decide +kernel)
  · by_contra changed
    rcases (format_touches_only scattered proper asks place).2.1 changed with
      ⟨_, path, form, named, ⟨root, text, module, found, isModule, there, read, rfl, differs⟩, _⟩
    obtain rfl : path = "lib" := (Option.some.inj named).symm
    obtain rfl : root = ["lib"] := Option.some.inj (found.symm.trans located)
    have below := (isModuleOf_of_isDirectory isDirectory).mp isModule
    -- What is left of the modules below the directory is refused or in standard form.
    have settled : ∀ file ∈ scattered.tree.files, file.1 ≠ ["lib", "a.pipe"] →
        file.1 ≠ ["lib", "deep", "d.pipe"] →
        FileTree.isBelow ["lib"] moduleEnding file.1 = true →
        (Module.read (quotedName "lib" ["lib"] file.1) (Text.asRead file.2)).toOption.all
          (fun module => decide (module.print = Text.asRead file.2)) = true := by
      decide +kernel
    have standard :=
      settled (place, text) (FileTree.mem_files_of_text? _ there) notFirst notLast below
    rw [read] at standard
    exact differs (of_decide_eq_true standard)

end ClauseFlow.Command
