import Stencil.Proofs.Atomic
import Stencil.Proofs.Places

/-! What a compilation into a directory leaves.

* `Merged`: the options of a request, said without a computation.
* `isName_outputName`: a template's file has a name of its own in the directory.
* `firstRepeat?_eq_some`: if names repeat, the first path that repeats one is found, with the earlier
  path.
* `writeFiles_holds`: what is written is there at the end, unless a later file is at the same place.
* `compile_writes_each_once`: a compilation that succeeds has written one file for each tree, and
  nothing else, where no link leads two of the files to one place; one whose trees share a name fails
  before it looks at them. -/

namespace Stencil.Cli
set_option autoImplicit false

open Outcome

/-! ## Options -/

/-- The options that a request starts from: those of the file that it names or, if it names none, those
of the options file that is there, or the usual ones. -/
inductive StartsFrom (disk : Disk) : Option String → Options → Prop
  | named {path text : String} {options : Options} (read : disk.readText path = .ok text)
      (parsed : Options.ofTomlText text = .ok options) : StartsFrom disk (some path) options
  | found {text : String} {options : Options} (there : disk.exists? optionsFile = true)
      (read : disk.readText optionsFile = .ok text)
      (parsed : Options.ofTomlText text = .ok options) : StartsFrom disk none options
  | usual (absent : disk.exists? optionsFile = false) : StartsFrom disk none {}

theorem loadOptions_eq_ok {disk : Disk} {path : String} {options : Options} :
    loadOptions disk path = .ok options ↔
      ∃ text, disk.readText path = .ok text ∧ Options.ofTomlText text = .ok options := by
  rw [loadOptions]
  cases disk.readText path with
  | error e => simp
  | ok text => simp [mapError_eq_ok]

theorem baseOptions_eq_ok {disk : Disk} {config : Option String} {options : Options} :
    baseOptions disk config = .ok options ↔ StartsFrom disk config options := by
  cases config with
  | some path =>
    rw [baseOptions, loadOptions_eq_ok]
    exact ⟨fun ⟨_, read, parsed⟩ => .named read parsed, fun | .named read parsed => ⟨_, read, parsed⟩⟩
  | none =>
    rw [baseOptions]
    cases there : disk.exists? optionsFile with
    | false =>
      constructor
      · rintro ⟨⟩
        exact .usual there
      · intro h
        cases h with
        | found present => rw [there] at present; cases present
        | usual _ => rfl
    | true =>
      rw [if_pos rfl, loadOptions_eq_ok]
      constructor
      · exact fun ⟨_, read, parsed⟩ => .found there read parsed
      · intro h
        cases h with
        | found _ read parsed => exact ⟨_, read, parsed⟩
        | usual absent => rw [there] at absent; cases absent

/-- Options with what a request itself says about them: its flag against wrapping, and its name of the
variable to export to. -/
def overridden (request : CompileRequest) (base : Options) : Options where
  wrap := if request.noWrap then false else base.wrap
  indent := base.indent
  exportName := if request.exportName.isSome then request.exportName else base.exportName

/-- The options of a request, which have no defect. -/
def Merged (disk : Disk) (request : CompileRequest) (options : Options) : Prop :=
  ∃ base, StartsFrom disk request.config base ∧ options = overridden request base ∧
    options.defect? = none

theorem requestOptions_eq_ok {disk : Disk} {request : CompileRequest} {options : Options} :
    requestOptions disk request = .ok options ↔ Merged disk request options := by
  rw [requestOptions, bind_eq_ok]
  refine exists_congr fun base => ?_
  rw [baseOptions_eq_ok]
  refine and_congr_right fun _ => ?_
  have same : { base with
      wrap := base.wrap && !request.noWrap
      exportName := request.exportName <|> base.exportName } = overridden request base := by
    unfold overridden
    cases base.wrap <;> cases request.noWrap <;> cases request.exportName <;> rfl
  rw [same]
  dsimp only
  constructor
  · intro h
    split at h
    · cases h
    · cases h
      exact ⟨rfl, ‹_›⟩
  · rintro ⟨rfl, sound⟩
    rw [sound]
    rfl

/-! ## Names of templates -/

/-- The name of the file that the template of a tree is written to. -/
def outputName (path : String) : String := templateName path ++ ".js"

theorem templateName_plain (path : String) : '/' ∉ (templateName path).toList := by
  rw [templateName]
  cases found : Path.stem? path with
  | none => decide
  | some stem => exact Path.not_mem_of_stem? found

theorem isName_outputName (path : String) : Path.IsName (outputName path) := by
  have long : 3 ≤ (outputName path).length := by
    rw [outputName, String.length_append]
    exact Nat.le_add_left 3 _
  refine ⟨?_, ?_, ?_, ?_⟩
  · rw [outputName, String.toList_append, List.mem_append]
    exact fun slash => slash.elim (templateName_plain path) (by decide)
  -- The other three texts are too short.
  all_goals
    intro short
    rw [short] at long
    revert long
    decide

/-- If names repeat, the search ends at the first path that repeats one, and finds where. -/
theorem firstRepeat?_eq_some {seen paths : List String} (fresh : (seen.map templateName).Nodup)
    (repeated : ¬ ((seen ++ paths).map templateName).Nodup) :
    ∃ before path rest earlier, paths = before ++ path :: rest ∧
      ((seen ++ before).map templateName).Nodup ∧ earlier ∈ seen ++ before ∧
      templateName earlier = templateName path ∧ firstRepeat? seen paths = some (earlier, path) := by
  induction paths generalizing seen with
  | nil =>
    rw [List.append_nil] at repeated
    exact absurd fresh repeated
  | cons path rest ih =>
    rw [firstRepeat?]
    cases found : seen.find? (fun earlier => templateName earlier == templateName path) with
    | some earlier =>
      have same := List.find?_some found
      refine ⟨[], path, rest, earlier, rfl, ?_, ?_, beq_iff_eq.mp same, rfl⟩
      · rwa [List.append_nil]
      · rw [List.append_nil]
        exact List.mem_of_find?_eq_some found
    | none =>
      -- The path joins those that have been seen, whose names still differ.
      have new : templateName path ∉ seen.map templateName := by
        intro mem
        obtain ⟨earlier, there, same⟩ := List.mem_map.mp mem
        exact List.find?_eq_none.mp found earlier there (beq_iff_eq.mpr same)
      have longer : ((seen ++ [path]).map templateName).Nodup := by
        rw [List.map_append]
        refine List.nodup_append.mpr ⟨fresh, List.pairwise_singleton _ _, ?_⟩
        intro name mem other single same
        rw [List.mem_singleton.mp single] at same
        exact new (same ▸ mem)
      rw [List.append_cons] at repeated
      obtain ⟨before, next, rest', earlier, rfl, distinct, mem, same, first⟩ := ih longer repeated
      refine ⟨path :: before, next, rest', earlier, rfl, ?_, ?_, same, first⟩
      · rwa [List.append_cons]
      · rwa [List.append_cons]

/-! ## Writing -/

/-- Each template is in the file at the place that its target leads to, unless the target of a later
template leads there too. -/
def Held (directory : String) (templates : List Template) (disk : Disk) : Prop :=
  ∀ front template later, templates = front ++ template :: later → ∃ place,
    disk.locate (targetOf directory template) = .ok place ∧
    ((∀ other ∈ later, disk.locate (targetOf directory other) ≠ .ok place) →
      disk.at? place = some (.file (.text (template.source ++ "\n"))))

/-- What is written is still there at the end, unless it is written over. -/
theorem writeFiles_holds {directory : String} {templates : List Template} {disk : Disk}
    (ended : (writeFiles directory templates disk).outcome = .ok ()) :
    Disk.ChangesOnly (Path.Around directory) (templates.map (fileOf directory)) disk
        (writeFiles directory templates disk).disk ∧
      Held directory templates (writeFiles directory templates disk).disk := by
  induction templates generalizing disk with
  | nil =>
    refine ⟨.refl disk, fun front template later split => ?_⟩
    exact absurd (List.append_eq_nil_iff.mp split.symm).2 (List.cons_ne_nil _ _)
  | cons first rest ih =>
    rw [writeFiles] at ended ⊢
    cases wrote : disk.writeText (targetOf directory first) (first.source ++ "\n") with
    | error e =>
      rw [wrote] at ended
      cases ended
    | ok written =>
      rw [wrote] at ended
      obtain ⟨changes, held⟩ := ih ended
      refine ⟨(Disk.changes_of_writeText wrote).trans changes, fun front template later split => ?_⟩
      cases front with
      | cons earlier front => exact held front template later (List.cons.inj split).2
      | nil =>
        obtain ⟨rfl, rfl⟩ := List.cons.inj split
        obtain ⟨place, leads, writable, same⟩ := Disk.writeText_eq_ok wrote
        have now := (Disk.keeps_of_writeText wrote).locate leads
        refine ⟨place, changes.keeps.locate now, fun apart => changes.file ?_ ?_⟩
        · rw [same]
          exact Disk.at?_put_self _ writable.ne_nil _
        · intro file mem same
          obtain ⟨next, among, rfl⟩ := List.mem_map.mp mem
          exact apart next among same

/-! ## Whole compilations -/

/-- The path of the file that the template of a tree is written to. -/
def outputPath (directory path : String) : String := Path.join directory (outputName path)

/-- The tree of a path is what was in its file before, and its template has gone to the place that the
output path leads to. There the file holds the source and a line feed, unless one of the `later` paths
has the same place. -/
def HasOutput (directory : String) (before after : Disk) (options : Options)
    (target : String → Location) (path : String) (later : List String) : Prop :=
  ∃ text tree template, before.readText path = .ok text ∧ Node.ofYamlText text = .ok tree ∧
    Registry.standard.compileTemplate (templateName path) options tree = .ok template ∧
    after.locate (outputPath directory path) = .ok (target path) ∧
    ((∀ other ∈ later, target other ≠ target path) →
      after.readText (outputPath directory path) = .ok (template.source ++ "\n"))

/-- The request has been met by writing, for each of the paths, the file at the place `target path`. -/
structure Written (request : CompileRequest) (directory : String) (before after : Disk)
    (options : Options) (paths : List String) (target : String → Location) : Prop where
  merged : Merged before request options
  expanded : expandPatterns before request.trees = .ok paths
  distinct : (paths.map templateName).Nodup
  files : ∀ front path later, paths = front ++ path :: later →
    HasOutput directory before after options target path later
  /-- There are as many files as paths, unless one of the output paths is that of a link. -/
  once : (∀ path ∈ paths, after.isLink (outputPath directory path) = false) →
    (paths.map target).Nodup
  /-- All else is as before, but for directories that are made on the way to the directory. -/
  others : ∀ place, place ∉ paths.map target →
    after.at? place = before.at? place ∨
      (before.at? place = none ∧ after.at? place = some .directory ∧
        ∃ path, Path.Around directory path ∧ after.locate path = .ok place)

theorem readTree_eq_ok {disk : Disk} {path : String} {tree : Node} :
    readTree disk path = .ok tree ↔
      ∃ text, disk.readText path = .ok text ∧ Node.ofYamlText text = .ok tree := by
  rw [readTree]
  cases disk.readText path with
  | error e => simp
  | ok text => simp [mapError_eq_ok]

/-- The paths are cut where the templates are. -/
theorem template_of_path {disk : Disk} {options : Options} {front later : List String} {path : String}
    {templates : List Template}
    (compiled : (front ++ path :: later).mapM (compileFile disk options) = .ok templates) :
    ∃ first template last, templates = first ++ template :: last ∧
      last.map Template.name = later.map templateName ∧
      compileFile disk options path = .ok template := by
  obtain ⟨first, rest, -, from_path, rfl⟩ := mapM_append_eq_ok.mp compiled
  obtain ⟨template, last, made, behind, rfl⟩ := mapM_cons_eq_ok.mp from_path
  have named := map_of_mapM (fun path _ template made => name_of_compileFile made) behind
  exact ⟨first, template, last, rfl, named, made⟩

theorem targetOf_eq {template : Template} {path : String} (directory : String)
    (named : template.name = templateName path) :
    targetOf directory template = outputPath directory path := by
  rw [targetOf, named]
  rfl

/-- The place of the file that the template of a tree is written to. -/
def outputPlace (disk : Disk) (directory path : String) : Location :=
  (disk.locate (outputPath directory path)).toOption.getD []

theorem outputPlace_eq {disk : Disk} {directory path : String} {place : Location}
    (leads : disk.locate (outputPath directory path) = .ok place) :
    outputPlace disk directory path = place := by
  rw [outputPlace, leads]
  rfl

variable {request : CompileRequest} {directory : String} {before after : Disk} {paths : List String}
variable {templates : List Template}

theorem Prepared.path_of_template (prepared : Prepared before request paths templates)
    {template : Template} (mem : template ∈ templates) :
    ∃ path ∈ paths, template.name = templateName path := by
  have named : template.name ∈ paths.map templateName :=
    prepared.named ▸ List.mem_map_of_mem mem
  obtain ⟨path, among, same⟩ := List.mem_map.mp named
  exact ⟨path, among, same.symm⟩

/-- Different names lead to different places, if none of them is that of a link. -/
theorem once_of_distinct (distinct : (paths.map templateName).Nodup)
    (leads : ∀ path ∈ paths, ∃ place, after.locate (outputPath directory path) = .ok place)
    (plain : ∀ path ∈ paths, after.isLink (outputPath directory path) = false) :
    (paths.map (outputPlace after directory)).Nodup := by
  unfold List.Nodup at distinct ⊢
  rw [List.pairwise_map] at distinct ⊢
  refine distinct.imp_of_mem fun {path other} mem mem' apart same => apart ?_
  obtain ⟨place, there⟩ := leads path mem
  obtain ⟨place', there'⟩ := leads other mem'
  rw [outputPlace_eq there, outputPlace_eq there'] at same
  have equal := Disk.locate_join_inj (isName_outputName path) (isName_outputName other)
    (plain path mem) (plain other mem') there (same ▸ there')
  exact (String.append_left_inj ".js").mp equal

/-- What the templates of a request have left, said of its paths. -/
theorem hasOutput_of_compiled {options : Options} {front later : List String} {path : String}
    (compiled : (front ++ path :: later).mapM (compileFile before options) = .ok templates)
    (held : Held directory templates after) :
    HasOutput directory before after options (outputPlace after directory) path later := by
  obtain ⟨first, template, last, rfl, named, made⟩ := template_of_path compiled
  obtain ⟨place, leads, holds⟩ := held first template last rfl
  rw [targetOf_eq directory (name_of_compileFile made)] at leads
  obtain ⟨tree, read, made⟩ := bind_eq_ok.mp made
  obtain ⟨text, read, parsed⟩ := readTree_eq_ok.mp read
  have there := outputPlace_eq leads
  refine ⟨text, tree, template, read, parsed, mapError_eq_ok.mp made,
    leads.trans (congrArg Except.ok there.symm), fun apart => ?_⟩
  refine Disk.readText_eq_ok leads (holds fun next mem same => ?_)
    (Path.endsInSlash_join directory (isName_outputName path))
  -- A later file at this place is that of a later path.
  obtain ⟨other, among, equal⟩ := List.mem_map.mp (named ▸ List.mem_map_of_mem mem)
  rw [targetOf_eq directory equal.symm] at same
  exact apart other among ((outputPlace_eq same).trans there.symm)

theorem written_of_prepared (prepared : Prepared before request paths templates)
    (changes : Disk.ChangesOnly (Path.Around directory) (templates.map (fileOf directory)) before
      after)
    (held : Held directory templates after) :
    ∃ options target, Written request directory before after options paths target := by
  obtain ⟨options, merged, compiled⟩ := prepared.compiled
  have files : ∀ front path later, paths = front ++ path :: later →
      HasOutput directory before after options (outputPlace after directory) path later := by
    rintro front path later rfl
    exact hasOutput_of_compiled compiled held
  refine ⟨options, _, requestOptions_eq_ok.mp merged, prepared.expanded, prepared.distinct, files,
    ?_, ?_⟩
  · refine once_of_distinct prepared.distinct fun path mem => ?_
    obtain ⟨front, later, split⟩ := List.append_of_mem mem
    obtain ⟨_, _, _, _, _, _, leads, _⟩ := files front path later split
    exact ⟨_, leads⟩
  · intro place apart
    rcases changes.places place with same | made | ⟨-, file, mem, leads, -⟩
    · exact .inl same
    · exact .inr made
    · obtain ⟨template, among, rfl⟩ := List.mem_map.mp mem
      obtain ⟨path, there, named⟩ := prepared.path_of_template among
      have leads : after.locate (outputPath directory path) = .ok place :=
        targetOf_eq directory named ▸ leads
      exact (apart (List.mem_map.mpr ⟨path, there, outputPlace_eq leads⟩)).elim

theorem written_of_compile (given : request.outDirectory = some directory) {disk : Disk}
    (ended : (compile request disk).outcome = .ok ()) :
    ∃ options paths target,
      Written request directory disk (compile request disk).disk options paths target := by
  rw [compile] at ended ⊢
  cases ready : prepare disk request with
  | error message =>
    rw [ready] at ended
    cases ended
  | ok templates =>
    obtain ⟨paths, prepared⟩ := prepared_of_prepare (by rw [given]; rfl) ready
    have around := Disk.changes_of_makeDirectories directory disk
    simp only [ready, given, writeTemplates] at ended ⊢
    cases made : disk.makeDirectories directory with
    | mk result middle =>
      rw [made] at ended around
      cases result with
      | error e => cases ended
      | ok _ =>
        obtain ⟨changes, held⟩ := writeFiles_holds ended
        obtain ⟨options, target, written⟩ :=
          written_of_prepared prepared (around.trans changes) held
        exact ⟨options, paths, target, written⟩

/-- Trees that share a name are refused before any tree is looked at. -/
theorem compile_of_repeat (given : request.outDirectory = some directory) {disk : Disk}
    {options : Options} {earlier path : String} (merged : Merged disk request options)
    (expanded : expandPatterns disk request.trees = .ok paths)
    (found : firstRepeat? [] paths = some (earlier, path)) :
    compile request disk = { outcome := .error (repeatMessage earlier path), disk } := by
  have refused : prepare disk request = .error (repeatMessage earlier path) := by
    rw [prepare, requestOptions_eq_ok.mpr merged]
    simp only [bind, Except.bind, expanded, given, Option.isSome_some, if_true, checkNames, found]
  rw [compile, refused]

/-- A compilation into a directory that succeeds has written the template of each tree to a file, and
nothing else: one file for each tree, unless links lead two of them to one place, which then has the
last one. If two trees have templates of one name, there is a first path that repeats the name of an
earlier one, and the compilation fails with both of them, whatever is at the paths. -/
theorem compile_writes_each_once (request : CompileRequest) (directory : String)
    (given : request.outDirectory = some directory) :
    (∀ disk report, run (.compile request) disk = report → report.outcome = .ok () →
      ∃ options paths target, Written request directory disk report.disk options paths target) ∧
    ∀ paths : List String, ¬ (paths.map templateName).Nodup →
      ∃ before path rest earlier, paths = before ++ path :: rest ∧
        (before.map templateName).Nodup ∧ earlier ∈ before ∧
        templateName earlier = templateName path ∧
        ∀ disk options, Merged disk request options →
          expandPatterns disk request.trees = .ok paths →
          run (.compile request) disk =
            { outcome := .error (earlier ++ " and " ++ path ++ " both compile to " ++
                templateName path ++ ".js"), disk } := by
  constructor
  · rintro disk report rfl ended
    exact written_of_compile given ended
  · intro paths repeated
    have fresh : (([] : List String).map templateName).Nodup := List.nodup_nil
    obtain ⟨before, path, rest, earlier, split, distinct, mem, same, found⟩ :=
      firstRepeat?_eq_some fresh repeated
    refine ⟨before, path, rest, earlier, split, distinct, mem, same, ?_⟩
    intro disk options merged expanded
    exact compile_of_repeat given merged expanded found

/-- The text of a tree that is one piece of text. -/
def pieceOf (data : String) : String :=
  "\x7b\"type\": \"text\", \"attributes\": \x7b\"data\": \"" ++ data ++ "\"\x7d\x7d"

/-- A tree that lies where its own template goes, in a directory that a link leads to, and two trees of
one name that are not even there. -/
theorem compile_writes_over_its_tree :
    let disk : Disk :=
      { entries := [(["a.yaml"], .file (.text (pieceOf "a"))), (["out"], .link "site"),
          (["site"], .directory), (["site", "b.js"], .file (.text (pieceOf "b")))] }
    let request : CompileRequest :=
      { trees := ["a.yaml", "out/b.js"], outDirectory := some "out", noWrap := true }
    let report := run (.compile request) disk
    let clash : CompileRequest := { trees := ["x/b.yaml", "y/b.json"], outDirectory := some "out" }
    report.outcome = .ok () ∧
      (∃ options paths target, Written request "out" disk report.disk options paths target) ∧
      (∀ path ∈ request.trees, report.disk.isLink (outputPath "out" path) = false) ∧
      report.disk.readText "out/a.js" = .ok "html += \"a\";\n" ∧
      report.disk.readText "out/b.js" = .ok "html += \"b\";\n" ∧
      Merged {} clash {} ∧ expandPatterns {} clash.trees = .ok clash.trees ∧
      ¬ (clash.trees.map templateName).Nodup ∧
      ∃ before path rest earlier, clash.trees = before ++ path :: rest ∧
        (before.map templateName).Nodup ∧ earlier ∈ before ∧
        templateName earlier = templateName path ∧
        run (.compile clash) {} =
          { outcome := .error (earlier ++ " and " ++ path ++ " both compile to " ++
              templateName path ++ ".js"), disk := {} } := by
  intro disk request report clash
  have ran : report.outcome.toOption = some () ∧
      (∀ path ∈ request.trees, report.disk.isLink (outputPath "out" path) = false) ∧
      (report.disk.readText "out/a.js").toOption = some "html += \"a\";\n" ∧
      (report.disk.readText "out/b.js").toOption = some "html += \"b\";\n" := by decide +kernel
  have ended : report.outcome = .ok () := toOption_eq_some.mp ran.1
  have merged : Merged {} clash {} := ⟨{}, .usual (by decide +kernel), by decide +kernel, rfl⟩
  have expanded : expandPatterns {} clash.trees = .ok clash.trees := by rfl
  have repeated : ¬ (clash.trees.map templateName).Nodup := by decide +kernel
  obtain ⟨before, path, rest, earlier, split, distinct, mem, same, refused⟩ :=
    (compile_writes_each_once clash "out" rfl).2 clash.trees repeated
  exact ⟨ended, (compile_writes_each_once request "out" rfl).1 disk report rfl ended, ran.2.1,
    toOption_eq_some.mp ran.2.2.1, toOption_eq_some.mp ran.2.2.2, merged, expanded, repeated, before,
    path, rest, earlier, split, distinct, mem, same, refused {} {} merged expanded⟩

/-- Two trees with different names, of which one goes through a link to the file of the other: the
compilation succeeds and writes one file, and the template of the first tree is nowhere. -/
theorem compile_loses_linked_output :
    let disk : Disk :=
      { entries := [(["a.yaml"], .file (.text (pieceOf "a"))),
          (["b.yaml"], .file (.text (pieceOf "b"))), (["out"], .directory),
          (["out", "a.js"], .link "b.js"), (["out", "b.js"], .file (.text ""))] }
    let request : CompileRequest :=
      { trees := ["a.yaml", "b.yaml"], outDirectory := some "out", noWrap := true }
    let report := run (.compile request) disk
    let options : Options := { wrap := false }
    report.outcome = .ok () ∧ Merged disk request options ∧
      expandPatterns disk request.trees = .ok ["a.yaml", "b.yaml"] ∧
      (∃ text tree template, disk.readText "a.yaml" = .ok text ∧ Node.ofYamlText text = .ok tree ∧
        Registry.standard.compileTemplate "a" options tree = .ok template ∧
        report.disk.readText "out/a.js" ≠ .ok (template.source ++ "\n")) ∧
      report.disk.readText "out/a.js" = .ok "html += \"b\";\n" ∧
      disk.differences report.disk =
        [(["out", "b.js"], .file (.text "html += \"b\";\n"))] := by
  intro disk request report options
  have ran : report.outcome.toOption = some () ∧
      (report.disk.readText "out/a.js").toOption = some "html += \"b\";\n" ∧
      disk.differences report.disk =
        [(["out", "b.js"], .file (.text "html += \"b\";\n"))] := by decide +kernel
  have merged : Merged disk request options :=
    ⟨{}, .usual (by decide +kernel), by decide +kernel, rfl⟩
  have read : disk.readText "a.yaml" = .ok (pieceOf "a") := toOption_eq_some.mp (by decide +kernel)
  have holds : report.disk.readText "out/a.js" = .ok "html += \"b\";\n" :=
    toOption_eq_some.mp ran.2.1
  have source : ((Node.ofYamlText (pieceOf "a")).toOption.bind fun tree =>
      (Registry.standard.compileTemplate "a" options tree).toOption.map Template.source) =
      some "html += \"a\";" := by decide +kernel
  obtain ⟨tree, parsed, compiled⟩ := Option.bind_eq_some_iff.mp source
  obtain ⟨template, made, source⟩ := Option.map_eq_some_iff.mp compiled
  refine ⟨toOption_eq_some.mp ran.1, merged, by rfl, ⟨_, tree, template, read,
    toOption_eq_some.mp parsed, toOption_eq_some.mp made, ?_⟩, holds, ran.2.2⟩
  rw [holds, source]
  intro same
  exact absurd (Except.ok.inj same) (by decide)

end Stencil.Cli
