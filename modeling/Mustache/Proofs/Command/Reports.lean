import Mathlib.Data.List.Perm.Basic
import Mathlib.Data.Set.List
import Mustache.Proofs.Command.AllOrNothing
import Mustache.Proofs.Command.Effective
import Mustache.Proofs.Template.Traffic

/-!
Checking several templates. What is printed for one of them depends on nothing but its own file and
the partials chosen for it, and the whole is what is printed for each, in their order. A file that
there is no directory of partials for ends the command.
-/

namespace Mustache

set_option autoImplicit false

theorem PartialsDirectory.reply_is_text {partials : PartialsDirectory} {tree : FileTree}
    {name : String} {source : Source} (served : (partials.serve tree name).result = .ok source) :
    ∃ content, source = .text content := by
  unfold serve at served
  split at served
  · cases served
  · dsimp only at served
    split at served
    · cases served
    · split at served
      · cases served
      · split at served
        · split at served
          · cases served
            exact ⟨_, rfl⟩
          · cases served
        · cases served

namespace Command

/-- An action with this result, which prints this and otherwise only adds records to the log. -/
def Tells {α : Type} (action : Action α) (result : Except Stop α) (text : String) : Prop :=
  ∀ progress, ∃ records, action.run progress =
    (result, { progress with
      records := progress.records ++ records, printed := progress.printed ++ text })

namespace Tells

variable {α β : Type} {action : Action α} {next : α → Action β} {value : α}
  {result : Except Stop β} {text more : String}

theorem of_comes_to {result : Except Stop α} (comes : ComesTo action result) :
    Tells action result "" := by
  intro progress
  obtain ⟨records, run⟩ := comes progress
  exact ⟨records, by rw [run, String.append_empty]⟩

theorem of_pure (value : α) : Tells (pure value) (.ok value) "" := of_comes_to (.of_pure value)

theorem of_bind (first : Tells action (.ok value) text) (second : Tells (next value) result more) :
    Tells (action >>= next) result (text ++ more) := by
  intro progress
  obtain ⟨records, run⟩ := first progress
  obtain ⟨others, further⟩ := second { progress with
    records := progress.records ++ records, printed := progress.printed ++ text }
  refine ⟨records ++ others, ?_⟩
  rw [Action.run_bind_ok run, further, ← List.append_assoc, ← String.append_assoc]

theorem after_nothing (first : Tells action (.ok value) "")
    (second : Tells (next value) result text) : Tells (action >>= next) result text := by
  rw [← String.empty_append (s := text)]
  exact first.of_bind second

theorem before_pure {last : β} (first : Tells action (.ok value) text)
    (second : next value = pure last) : Tells (action >>= next) (.ok last) text := by
  rw [← String.append_empty (s := text)]
  refine first.of_bind ?_
  rw [second]
  exact of_pure last

theorem of_bind_error {stop : Stop} (first : Tells action (.error stop) text) :
    Tells (action >>= next) (.error stop) text := by
  intro progress
  obtain ⟨records, run⟩ := first progress
  exact ⟨records, Action.run_bind_error run⟩

theorem of_report (record : LogRecord) : Tells (report record) (.ok ()) "" :=
  fun progress => ⟨[record], by rw [String.append_empty]; rfl⟩

end Tells

def failureLine (template : Path) (fault : Fault) : String :=
  crossMark ++ template.text ++ ": " ++ fault.message ++ "\n"

def resultLine (template : Path) : Except Fault Template → String
  | .ok _ => successLine template
  | .error fault => failureLine template fault

/-- What is told of a result: whether it is a success, and in which line. Nothing is told if octets
cannot encode the line. -/
def told? (around : Surroundings) (template : Path) (result : Except Fault Template) :
    Option (Bool × String) :=
  let line := resultLine template result
  if Printable around line then some (result.isOk, shownText around line) else none

def report? (around : Surroundings) (settings : Settings) (named : Option Path) (template : Path) :
    Option (Bool × String) :=
  match checkResult around settings named template with
  | .error _ => none
  | .ok result => told? around template result

section OneFile

theorem print_tells {around : Surroundings} {text : String} (printable : Printable around text) :
    Tells (print around text) (.ok ()) (shownText around text) := fun progress =>
  ⟨[], by rw [print_run, if_pos printable, List.append_nil]⟩

theorem print_stops {around : Surroundings} {text : String}
    (unprintable : ¬ Printable around text) :
    Tells (print around text) (.error (.crashed (.value .unencodable))) "" := fun progress =>
  ⟨[], by rw [print_run, if_neg unprintable, List.append_nil, String.append_empty]⟩

theorem announce_tells {around : Surroundings} {template : Path} {result : Except Fault Template}
    {report : Bool × String} (told : told? around template result = some report) :
    Tells (announce around template result) (.ok report.1) report.2 := by
  unfold told? at told
  dsimp only at told
  split at told
  · next printable =>
      cases told
      cases result with
      | ok compiled => exact .before_pure (print_tells printable) rfl
      | error fault =>
          exact .after_nothing (.of_report _) (.before_pure (print_tells printable) rfl)
  · cases told

theorem announce_stops {around : Surroundings} {template : Path} {result : Except Fault Template}
    (untold : told? around template result = none) :
    Tells (announce around template result) (.error (.crashed (.value .unencodable))) "" := by
  unfold told? at untold
  dsimp only at untold
  split at untold
  · cases untold
  · next unprintable =>
      cases result with
      | ok compiled => exact .of_bind_error (print_stops unprintable)
      | error fault =>
          exact .after_nothing (.of_report _) (.of_bind_error (print_stops unprintable))

variable {around : Surroundings} {settings : Settings} {named : Option Path} {template : Path}

theorem check_result_crashes {stop : Stop}
    (stops : checkResult around settings named template = .error stop) :
    ∃ fault, stop = .crashed fault := by
  unfold checkResult at stops
  split at stops
  · cases stops
    exact ⟨_, rfl⟩
  · unfold fileResult at stops
    split at stops
    · cases stops
      exact ⟨_, rfl⟩
    · split at stops
      · cases stops
      · split at stops
        · cases stops
        · cases stops
          exact ⟨_, rfl⟩

theorem check_one_tells {report : Bool × String}
    (reported : report? around settings named template = some report) :
    Tells (checkOne around settings named template) (.ok report.1) report.2 := by
  unfold report? at reported
  have judged := verdict_comes_to around settings named template
  rw [check_stages]
  split at reported
  · cases reported
  · next result found =>
      rw [found] at judged
      exact .after_nothing (.of_comes_to judged) (announce_tells reported)

theorem check_one_stops (unreported : report? around settings named template = none) :
    ∃ fault, Tells (checkOne around settings named template) (.error (.crashed fault)) "" := by
  unfold report? at unreported
  have judged := verdict_comes_to around settings named template
  rw [check_stages]
  split at unreported
  · next stop stops =>
      obtain ⟨fault, rfl⟩ := check_result_crashes stops
      rw [stops] at judged
      exact ⟨fault, .of_bind_error (.of_comes_to judged)⟩
  · next result found =>
      rw [found] at judged
      exact ⟨_, .after_nothing (.of_comes_to judged) (announce_stops unreported)⟩

theorem file_result_of_read {options : Options} {partials : PartialsDirectory} {text : String}
    (read : around.files.readText around.directory template = .ok text) :
    fileResult around (configWith around options partials) template =
      .ok ((configWith around options partials).runCompile [] (.text text)).1 := by
  obtain ⟨octets, found, decodes⟩ := except_of_bind_ok read
  have source : sourceOf octets = .text text := by
    unfold sourceOf
    rw [decodes]
  have texts (earlier : List String) (name : String) (source : Source)
      (served : ((configWith around options partials).loader.reply earlier name).result =
        .ok source) : source.readFailure = none ∧ source.closeFailure = none := by
    obtain ⟨content, rfl⟩ := PartialsDirectory.reply_is_text served
    exact ⟨rfl, rfl⟩
  unfold fileResult
  rw [found]
  dsimp only
  rw [source]
  cases compiled : ((configWith around options partials).runCompile [] (.text text)).1 with
  | ok compiled => rfl
  | error fault => exact if_pos (Config.fault_of_read rfl texts compiled)

theorem report_of_read {partials : PartialsDirectory} {text : String}
    (read : around.files.readText around.directory template = .ok text)
    (chosen : partialsFor around settings template named = .ok partials)
    {result : Except Fault Template}
    (compiled : ((configWith around settings.compiler partials).runCompile [] (.text text)).1 =
      result) (printable : Printable around (resultLine template result)) :
    report? around settings named template =
      some (result.isOk, shownText around (resultLine template result)) := by
  unfold report? checkResult
  rw [chosen]
  dsimp only
  rw [file_result_of_read read, compiled]
  exact if_pos printable

theorem report_of_no_partials
    (none : ∀ partials, partialsFor around settings template named ≠ .ok partials) :
    report? around settings named template = .none := by
  unfold report? checkResult
  cases chosen : partialsFor around settings template named with
  | error fault => rfl
  | ok partials => exact (none partials chosen).elim

end OneFile

def linesOf (reports : List (Bool × String)) : String := String.join (reports.map (·.2))

theorem lines_of_cons (report : Bool × String) (reports : List (Bool × String)) :
    linesOf (report :: reports) = report.2 ++ linesOf reports := by
  rw [linesOf, List.map_cons, String.join_cons]
  rfl

section AllFiles

variable {around : Surroundings} {settings : Settings} {named : Option Path}
  {templates : List Path}

theorem check_all_tells {reports : List (Bool × String)}
    (reported : templates.map (report? around settings named) = reports.map some) :
    Tells (templates.mapM (checkOne around settings named)) (.ok (reports.map (·.1)))
      (linesOf reports) := by
  induction templates generalizing reports with
  | nil =>
      obtain rfl := List.map_eq_nil_iff.mp reported.symm
      exact .of_pure []
  | cons template templates induction =>
      cases reports with
      | nil => cases reported
      | cons report reports =>
          obtain ⟨here, later⟩ := List.cons.inj reported
          rw [List.mapM_cons, lines_of_cons]
          exact .of_bind (check_one_tells here) (.before_pure (induction later) rfl)

/-- A file that nothing can be told of ends the command after what is told of those before it. -/
theorem check_all_stops {reports : List (Bool × String)}
    (reported : templates.map (report? around settings named) = reports.map some)
    {template : Path} (unreported : report? around settings named template = none)
    (others : List Path) :
    ∃ fault, Tells ((templates ++ template :: others).mapM (checkOne around settings named))
      (.error (.crashed fault)) (linesOf reports) := by
  induction templates generalizing reports with
  | nil =>
      obtain rfl := List.map_eq_nil_iff.mp reported.symm
      obtain ⟨fault, stops⟩ := check_one_stops unreported
      refine ⟨fault, ?_⟩
      rw [List.nil_append, List.mapM_cons]
      exact stops.of_bind_error
  | cons template' templates induction =>
      cases reports with
      | nil => cases reported
      | cons report reports =>
          obtain ⟨here, later⟩ := List.cons.inj reported
          obtain ⟨fault, stops⟩ := induction later
          refine ⟨fault, ?_⟩
          rw [List.cons_append, List.mapM_cons, lines_of_cons]
          exact .of_bind (check_one_tells here) stops.of_bind_error

theorem check_tells {reports : List (Bool × String)}
    (reported : templates.map (report? around settings named) = reports.map some) :
    Tells (check around settings ⟨templates, named⟩)
      (if reports.all (·.1) then .ok () else .error .failed) (linesOf reports) := by
  have all : (reports.map (·.1)).all id = reports.all (·.1) := by rw [List.all_map]; rfl
  unfold check
  rw [← String.append_empty (s := linesOf reports)]
  apply Tells.of_bind (check_all_tells reported)
  rw [all]
  cases reports.all (·.1) with
  | true => exact .of_pure ()
  | false => exact .of_comes_to (.of_throw _)

theorem check_stops_at {reports : List (Bool × String)}
    (reported : templates.map (report? around settings named) = reports.map some)
    {template : Path} (unreported : report? around settings named template = none)
    (others : List Path) :
    ∃ fault, Tells (check around settings ⟨templates ++ template :: others, named⟩)
      (.error (.crashed fault)) (linesOf reports) := by
  obtain ⟨fault, stops⟩ := check_all_stops reported unreported others
  exact ⟨fault, stops.of_bind_error⟩

end AllFiles

theorem reports_permuted {report : Path → Option (Bool × String)} {templates others : List Path}
    {reports : List (Bool × String)} (reported : templates.map report = reports.map some)
    (permuted : others.Perm templates) :
    ∃ moved : List (Bool × String),
      moved.Perm reports ∧ others.map report = moved.map some := by
  have found := permuted.map report
  rw [reported] at found
  obtain ⟨moved, same⟩ : others.map report ∈ Set.range (List.map some) := by
    rw [Set.range_list_map]
    intro told member
    obtain ⟨report, _, same⟩ := List.mem_map.mp (found.mem_iff.mp member)
    exact ⟨report, same⟩
  rw [← same] at found
  exact ⟨moved, (List.map_perm_map_iff (Option.some_injective _)).mp found, same.symm⟩

def AsksChecking (around : Surroundings) (arguments : List String) (options : GlobalOptions)
    (request : CheckRequest) : Prop :=
  ∃ read, readOpening around arguments = .ok (.task options read) ∧ read () = .ok (.check request)

def Ending.ofResult : Except Stop Unit → Ending
  | .ok _ => .succeeded
  | .error stop => .stopped stop

section CommandLines

variable {around : Surroundings} {arguments : List String} {options : GlobalOptions}
  {request : CheckRequest} {settings : Settings} {store : Store}

theorem check_run (asks : AsksChecking around arguments options request)
    (loaded : (Settings.load around options.config true).run .empty = (.ok settings, store)) :
    ∃ before, before.files = around.files ∧ before.printed = "" ∧
      (main around arguments).run (.fresh around) =
        (check around settings request).run before := by
  obtain ⟨read, opened, asked⟩ := asks
  obtain ⟨before, ran, -⟩ := load_settings_ok (.begun around options) loaded
  obtain ⟨files, printed⟩ := (load_settings_silent options.config).of_run ran
  refine ⟨before, files, printed, ?_⟩
  rw [main_run opened, Action.run_bind_ok ran, asked]
  rfl

theorem outcome_of_tells (asks : AsksChecking around arguments options request)
    (loaded : (Settings.load around options.config true).run .empty = (.ok settings, store))
    {result : Except Stop Unit} {text : String}
    (tells : Tells (check around settings request) result text) :
    let outcome := run around arguments
    outcome.progress.printed = text ∧ outcome.progress.files = around.files ∧
      outcome.ending = .ofResult result := by
  obtain ⟨before, files, printed, ran⟩ := check_run asks loaded
  obtain ⟨records, told⟩ := tells before
  rw [told] at ran
  intro outcome
  have same : outcome = run around arguments := rfl
  cases result with
  | ok value =>
      rw [run_of_ok ran] at same
      rw [same]
      exact ⟨by rw [printed, String.empty_append], files, rfl⟩
  | error stop =>
      rw [run_of_error ran] at same
      rw [same]
      exact ⟨by rw [printed, String.empty_append], files, rfl⟩

theorem reported_outcome (asks : AsksChecking around arguments options request)
    (loaded : (Settings.load around options.config true).run .empty = (.ok settings, store))
    {reports : List (Bool × String)}
    (reported : request.templates.map (report? around settings request.partials) =
      reports.map some) :
    let outcome := run around arguments
    outcome.progress.printed = linesOf reports ∧ outcome.progress.files = around.files ∧
      outcome.ending.status = if reports.all (·.1) then 0 else 1 := by
  intro outcome
  obtain ⟨printed, files, ending⟩ := outcome_of_tells asks loaded (check_tells reported)
  refine ⟨printed, files, ?_⟩
  rw [ending]
  cases reports.all (·.1) <;> rfl

theorem stopped_outcome (asks : AsksChecking around arguments options request)
    (loaded : (Settings.load around options.config true).run .empty = (.ok settings, store))
    {front others : List Path} {template : Path} {reports : List (Bool × String)}
    (split : request.templates = front ++ template :: others)
    (reported : front.map (report? around settings request.partials) = reports.map some)
    (unreported : report? around settings request.partials template = none) :
    let outcome := run around arguments
    outcome.progress.printed = linesOf reports ∧ outcome.ending.status = 1 := by
  intro outcome
  obtain ⟨fault, stops⟩ := check_stops_at reported unreported others
  rw [← split] at stops
  obtain ⟨printed, -, ending⟩ := outcome_of_tells asks loaded stops
  exact ⟨printed, by rw [ending]; rfl⟩

end CommandLines

/-- What checking prints is what it tells of each file, in the order of the command line. That
depends on nothing but the file and the partials that are chosen for it: it is a success just if the
template compiles with them, and else the fault that compiling ends with. The command fails just if
one of the files does. The same files in another order have the same lines in that order. A file
without partials that can be chosen for it ends the command after the lines of those before it. -/
theorem checking_reports_each_file_by_itself (around : Surroundings) (arguments : List String)
    (options : GlobalOptions) (request : CheckRequest) (settings : Settings) (store : Store)
    (asks : AsksChecking around arguments options request)
    (loaded : (Settings.load around options.config true).run .empty = (.ok settings, store)) :
    let outcome := run around arguments
    let report := report? around settings request.partials
    let Rooted (template : Path) := RootedAt around (settings.baseDirectory around.directory)
      template request.partials (some settings.directory)
    (∀ template text, around.files.readText around.directory template = .ok text →
      ∀ root, Rooted template root →
        let result := ((configWith around settings.compiler
          ⟨root, Settings.textOfSuffix settings.suffix⟩).runCompile [] (.text text)).1
        Printable around (resultLine template result) →
          report template = some (result.isOk, shownText around (resultLine template result))) ∧
    (∀ reports, request.templates.map report = reports.map some →
      outcome.progress.printed = linesOf reports ∧ outcome.progress.files = around.files ∧
      outcome.ending.status = (if reports.all (·.1) then 0 else 1) ∧
      ∀ arguments' options' request', AsksChecking around arguments' options' request' →
        options'.config = options.config → request'.partials = request.partials →
        request'.templates.Perm request.templates →
        ∃ moved : List (Bool × String), moved.Perm reports ∧
          request'.templates.map report = moved.map some ∧
          (run around arguments').progress.printed = linesOf moved ∧
          (run around arguments').ending.status = outcome.ending.status) ∧
    ∀ front template others reports, request.templates = front ++ template :: others →
      front.map report = reports.map some → (¬ ∃ root, Rooted template root) →
      outcome.progress.printed = linesOf reports ∧ outcome.ending.status = 1 := by
  intro outcome report Rooted
  have chosen (template : Path) (partials : PartialsDirectory) :
      partialsFor around settings template request.partials = .ok partials ↔
        ∃ root, Rooted template root ∧
          partials = ⟨root, Settings.textOfSuffix settings.suffix⟩ :=
    have same : settings.directory = (some settings.directory).getD .null := rfl
    partials_rooted same partials
  refine ⟨?_, ?_, ?_⟩
  · intro template text read root rooted result printable
    exact report_of_read read ((chosen template _).mpr ⟨root, rooted, rfl⟩) rfl printable
  · intro reports reported
    obtain ⟨printed, files, status⟩ := reported_outcome asks loaded reported
    refine ⟨printed, files, status, ?_⟩
    intro arguments' options' request' asks' config partials permuted
    obtain ⟨moved, same, told⟩ := reports_permuted reported permuted
    have reported' : request'.templates.map (report? around settings request'.partials) =
        moved.map some := by rw [partials, told]
    rw [← config] at loaded
    obtain ⟨printed', -, status'⟩ := reported_outcome asks' loaded reported'
    refine ⟨moved, same, told, printed', ?_⟩
    rw [status', status, same.all_eq]
  · intro front template others reports split reported unrooted
    refine stopped_outcome asks loaded split reported (report_of_no_partials ?_)
    intro partials found
    obtain ⟨root, rooted, -⟩ := (chosen template partials).mp found
    exact unrooted ⟨root, rooted⟩

section Examples

theorem check_names {around : Surroundings} {names : List String}
    (found : ∀ name ∈ names, checkName around .file name = .ok ()) :
    names.forM (checkName around .file) = .ok () := by
  induction names with
  | nil => rfl
  | cons name names induction =>
      obtain ⟨here, later⟩ := List.forall_mem_cons.mp found
      change (checkName around .file name >>= fun _ => names.forM (checkName around .file)) = _
      rw [here]
      exact induction later

theorem asks_checking {around : Surroundings} {names : List String}
    (globals : wordsOf around.libraries globalSpecs false ("check" :: names) =
      .ok ⟨[], "check" :: names⟩)
    (own : wordsOf around.libraries checkSpecs true names = .ok ⟨[], names⟩)
    (some : names.isEmpty = false)
    (found : ∀ name ∈ names, checkName around .file name = .ok ()) :
    AsksChecking around ("check" :: names) plainOptions ⟨names.map Path.read, none⟩ := by
  refine ⟨fun _ => readCheck around names, ?_, ?_⟩
  · unfold readOpening
    rw [globals]
    rfl
  · unfold readCheck
    rw [own]
    have options : checkOptions around ⟨[], names⟩ = .ok () := rfl
    simp only [bind, Except.bind, options, check_names found, some]
    rfl

/-- A failure between two successes, all three in the order of the command line. -/
theorem open_section_is_told_of :
    let outcome := run twoFiles ["check", "t", "open", "t"]
    outcome.progress.printed =
        "✅ t\n❌ open: Section missing close tag 'a' @ line 1\n✅ t\n" ∧
      outcome.ending.status = 1 := by
  have loaded : (Settings.load twoFiles none true).run .empty = (.ok .standard, .empty) := rfl
  have good : twoFiles.files.readOctets twoFiles.directory (Path.read "t") = .ok [104, 105] := by
    exact except_of_to_option (by decide +kernel)
  have bad : twoFiles.files.readOctets twoFiles.directory (Path.read "open") =
      .ok [123, 123, 35, 97, 125, 125] := by
    exact except_of_to_option (by decide +kernel)
  have asks : AsksChecking twoFiles ["check", "t", "open", "t"] plainOptions
      ⟨[Path.read "t", Path.read "open", Path.read "t"], none⟩ := by
    refine asks_checking (except_of_to_option (by decide +kernel))
      (except_of_to_option (by decide +kernel)) rfl ?_
    have first := check_name_of_read good (by decide +kernel)
    have second := check_name_of_read bad (by decide +kernel)
    simp [first, second]
  obtain ⟨each, all, -⟩ := checking_reports_each_file_by_itself twoFiles _ _ _ _ _ asks loaded
  have first : report? twoFiles .standard none (Path.read "t") = some (true, "✅ t\n") := by
    have read : twoFiles.files.readText twoFiles.directory (Path.read "t") = .ok "hi" := by
      unfold FileTree.readText
      rw [good]
      rfl
    refine (each _ _ read _ (.beside (.inr rfl)) (by decide +kernel)).trans ?_
    decide +kernel
  have second : report? twoFiles .standard none (Path.read "open") =
      some (false, "❌ open: Section missing close tag 'a' @ line 1\n") := by
    have read : twoFiles.files.readText twoFiles.directory (Path.read "open") =
        .ok "\x7b\x7b#a\x7d\x7d" := by
      unfold FileTree.readText
      rw [bad]
      rfl
    refine (each _ _ read _ (.beside (.inr rfl)) (by decide +kernel)).trans ?_
    decide +kernel
  obtain ⟨printed, -, status, -⟩ := all [_, _, _] (by simp only [List.map_cons, first, second]; rfl)
  exact ⟨printed.trans (String.toList_inj.mp (by decide +kernel)), status⟩

/-- A number may be written as the directory of partials. A template that compiles is then left
untold. -/
theorem number_as_directory_ends_checking :
    let written : Value := .mapping .dictionary
      [(.text "partials", .mapping .dictionary [(.text "directory", .int 5)])]
    ∃ settings store, (Settings.ofValue [] written).run .empty = (.ok settings, store) ∧
      twoFiles.files.readText twoFiles.directory (Path.read "t") = .ok "hi" ∧
      (∀ root, ∃ compiled, ((configWith twoFiles settings.compiler ⟨root, ".mustache"⟩).runCompile
        [] (.text "hi")).1 = .ok compiled) ∧
      ∃ fault, Tells (check twoFiles settings ⟨[Path.read "t"], none⟩) (.error (.crashed fault))
        "" := by
  intro written
  have accepted : ((Settings.ofValue [] written).run .empty).1.isOk = true := by decide +kernel
  obtain ⟨settings, read⟩ := except_of_is_ok accepted
  have number : (((Settings.ofValue [] written).run .empty).1.map fun settings =>
      match settings.directory with
      | .int 5 => true
      | _ => false) = .ok true := except_of_to_option (by decide +kernel)
  rw [read] at number
  have unplaced : ∀ partials,
      partialsFor twoFiles settings (Path.read "t") none ≠ .ok partials := by
    intro partials chosen
    unfold partialsFor Settings.partials? at chosen
    cases written : settings.directory with
    | null | text _ =>
        simp only [written, Except.map] at number
        cases number
    | _ =>
        rw [written] at chosen
        cases chosen
  have stops := @check_stops_at twoFiles settings none [] [] rfl _ (report_of_no_partials unplaced)
    []
  refine ⟨settings, ((Settings.ofValue [] written).run .empty).2, Prod.ext read rfl, ?_, ?_, stops⟩
  · unfold FileTree.readText
    have good : twoFiles.files.readOctets twoFiles.directory (Path.read "t") = .ok [104, 105] := by
      exact except_of_to_option (by decide +kernel)
    rw [good]
    rfl
  · intro root
    exact ⟨_, rfl⟩

end Examples

end Command

end Mustache
