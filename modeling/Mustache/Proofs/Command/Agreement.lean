import Mustache.Proofs.Command.Stages
import Mustache.Proofs.FileTree
import Mustache.Proofs.Template.Options

/-!
Checking a template tells whether rendering will get past compiling it. The two commands make their
configs each in its own way, but from the same settings and the same directory of partials, and what
else rendering is asked for are options, which compiling does not depend on.
-/

namespace Mustache

set_option autoImplicit false

namespace Command

def Printable (around : Surroundings) (text : String) : Prop :=
  Text.isEncodable (around.libraries.unstyled text.toList) = true

instance (around : Surroundings) (text : String) : Decidable (Printable around text) :=
  inferInstanceAs (Decidable (_ = true))

def shownText (around : Surroundings) (text : String) : String :=
  String.ofList (around.libraries.unstyled text.toList)

theorem print_run (around : Surroundings) (text : String) (progress : Progress) :
    (print around text).run progress =
      if Printable around text then
        (.ok (), { progress with printed := progress.printed ++ shownText around text })
      else (.error (.crashed (.value .unencodable)), progress) := by
  by_cases printable : Printable around text
  · have encodable : Text.isEncodable (around.libraries.unstyled text.toList) = true := printable
    rw [if_pos printable]
    simp only [print, encodable, Bool.not_true, Bool.false_eq_true, if_false]
    rfl
  · have other : Text.isEncodable (around.libraries.unstyled text.toList) = false := by
      simpa [Printable] using printable
    rw [if_neg printable]
    simp only [print, other, Bool.not_false, if_true]
    rfl

def PassesCompiling (around : Surroundings) (settings : Settings) (request : RenderRequest)
    (before : Progress) : Prop :=
  ∃ data template later,
    (prepare around settings request).run before = (.ok (data, .ok template), later)

def ReportsSuccess (around : Surroundings) (settings : Settings) (named : Option Path)
    (template : Path) (before : Progress) : Prop :=
  ∃ later, (checkOne around settings named template).run before = (.ok true, later) ∧
    later.printed = before.printed ++ shownText around (successLine template)

def Compiles (around : Surroundings) (options : Options) (partials : PartialsDirectory)
    (template : Path) : Prop :=
  ∃ compiled, fileResult around (configWith around options partials) template = .ok (.ok compiled)

theorem compiles_of_octets {around : Surroundings} {options : Options}
    {partials : PartialsDirectory} {template : Path} {octets : List UInt8}
    (read : around.files.readOctets around.directory template = .ok octets)
    (succeeds : ((configWith around options partials).runCompile [] (sourceOf octets)).1.isOk = true) :
    Compiles around options partials template := by
  obtain ⟨compiled, run⟩ := except_of_is_ok succeeds
  refine ⟨compiled, ?_⟩
  unfold fileResult
  rw [read]
  dsimp only
  rw [run]

theorem file_result_carrying (around : Surroundings) (loader : Loader) (template : Path) :
    ∃ outcome : Except Stop (Except Fault (List Segment)), ∀ options,
      fileResult around ⟨options, loader⟩ template = outcome.map fun result =>
        result.map fun segments =>
          ⟨Segment.carryingAll ⟨options, loader⟩ segments, ⟨options, loader⟩⟩ := by
  unfold fileResult
  cases around.files.readOctets around.directory template with
  | error fault => exact ⟨.error (.crashed fault), fun _ => rfl⟩
  | ok octets =>
      obtain ⟨result, journal, runs⟩ := run_compile_carrying loader [] (sourceOf octets)
      cases result with
      | ok segments =>
          refine ⟨.ok (.ok segments), fun options => ?_⟩
          dsimp only
          rw [runs]
          rfl
      | error fault =>
          refine ⟨if fault.isTemplateFault then .ok (.error fault) else .error (.crashed fault), ?_⟩
          intro options
          dsimp only
          rw [runs]
          dsimp only [Except.map]
          split <;> rfl

theorem compiles_congr (around : Surroundings) (options others : Options)
    (partials : PartialsDirectory) (template : Path) :
    Compiles around options partials template ↔ Compiles around others partials template := by
  obtain ⟨outcome, results⟩ :=
    file_result_carrying around (partials.loader around.files 1) template
  unfold Compiles configWith
  rw [results, results]
  cases outcome with
  | error stop => simp [Except.map]
  | ok result => cases result <;> simp [Except.map]

section Stages

variable {around : Surroundings} {settings : Settings} {before : Progress}

theorem passes_compiling_iff {request : RenderRequest} {data : Value} {between : Progress}
    (loaded : (loadData around request.data).run before = (.ok data, between)) :
    PassesCompiling around settings request before ↔
      ∃ partials, partialsFor around settings request.template request.partials = .ok partials ∧
        Compiles around (request.options settings.compiler) partials request.template := by
  unfold PassesCompiling Compiles prepare
  cases partialsFor around settings request.template request.partials with
  | error fault =>
      constructor
      · rintro ⟨_, _, _, run⟩
        cases run
      · rintro ⟨_, ⟨⟩, _⟩
  | ok partials =>
      obtain ⟨records, compiled⟩ := compile_file_comes_to around
        (configWith around (request.options settings.compiler) partials) request.template between
      have started : (orCrash (.ok partials) : Action PartialsDirectory).run before =
          (.ok partials, before) := rfl
      rw [Action.run_bind_ok started, Action.run_bind_ok loaded, Action.run_bind, compiled]
      constructor
      · rintro ⟨_, template, _, run⟩
        refine ⟨partials, rfl, ?_⟩
        cases result : fileResult around
            (configWith around (request.options settings.compiler) partials) request.template with
        | error stop =>
            rw [result] at run
            cases run
        | ok outcome =>
            rw [result] at run
            cases run
            exact ⟨template, rfl⟩
      · rintro ⟨_, ⟨⟩, template, result⟩
        rw [result]
        exact ⟨data, template, _, rfl⟩

def checkResult (around : Surroundings) (settings : Settings) (named : Option Path)
    (template : Path) : Except Stop (Except Fault Template) :=
  match partialsFor around settings template named with
  | .error fault => .error (.crashed fault)
  | .ok partials => fileResult around (configWith around settings.compiler partials) template

theorem verdict_comes_to (around : Surroundings) (settings : Settings) (named : Option Path)
    (template : Path) : ComesTo (verdict around settings named template)
      (checkResult around settings named template) := by
  unfold verdict checkResult
  cases partialsFor around settings template named with
  | error fault => exact .of_throw _
  | ok partials => exact .of_bind (.of_pure partials) (compile_file_comes_to _ _ _)

theorem check_result_ok_iff {named : Option Path} {template : Path} :
    (∃ compiled, checkResult around settings named template = .ok (.ok compiled)) ↔
      ∃ partials, partialsFor around settings template named = .ok partials ∧
        Compiles around settings.compiler partials template := by
  unfold checkResult Compiles
  cases partialsFor around settings template named with
  | error fault => simp
  | ok partials => simp

theorem announce_success_iff {template : Path} {result : Except Fault Template} :
    (∃ later, (announce around template result).run before = (.ok true, later)) ↔
      (∃ compiled, result = .ok compiled) ∧ Printable around (successLine template) := by
  cases result with
  | error fault =>
      constructor
      · rintro ⟨_, told⟩
        obtain ⟨_, _, _, further⟩ := Action.of_bind_ok told
        obtain ⟨_, _, _, last⟩ := Action.of_bind_ok further
        cases last
      · rintro ⟨⟨_, ⟨⟩⟩, _⟩
  | ok compiled =>
      unfold announce
      rw [Action.run_bind, print_run]
      by_cases printable : Printable around (successLine template)
      · rw [if_pos printable]
        exact ⟨fun _ => ⟨⟨compiled, rfl⟩, printable⟩, fun _ => ⟨_, rfl⟩⟩
      · rw [if_neg printable]
        constructor
        · rintro ⟨_, told⟩
          cases told
        · exact fun both => absurd both.2 printable

theorem announce_true {template : Path} {result : Except Fault Template} {later : Progress}
    (told : (announce around template result).run before = (.ok true, later)) :
    later.printed = before.printed ++ shownText around (successLine template) := by
  cases result with
  | error fault =>
      obtain ⟨_, _, _, further⟩ := Action.of_bind_ok told
      obtain ⟨_, _, _, last⟩ := Action.of_bind_ok further
      cases last
  | ok compiled =>
      obtain ⟨_, between, shown, last⟩ := Action.of_bind_ok told
      cases last
      rw [print_run] at shown
      split at shown
      · cases shown
        rfl
      · cases shown

theorem check_one_true {named : Option Path} {template : Path} {later : Progress}
    (checked : (checkOne around settings named template).run before = (.ok true, later)) :
    ReportsSuccess around settings named template before := by
  refine ⟨later, checked, ?_⟩
  rw [check_stages] at checked
  obtain ⟨result, between, judged, told⟩ := Action.of_bind_ok checked
  obtain ⟨records, run⟩ := verdict_comes_to around settings named template before
  rw [run] at judged
  have kept : between.printed = before.printed := by rw [← (Prod.mk.inj judged).2]
  rw [announce_true told, kept]

theorem reports_success_iff {named : Option Path} {template : Path} :
    ReportsSuccess around settings named template before ↔
      (∃ compiled, checkResult around settings named template = .ok (.ok compiled)) ∧
        Printable around (successLine template) := by
  have reports : ReportsSuccess around settings named template before ↔
      ∃ later, (checkOne around settings named template).run before = (.ok true, later) :=
    ⟨fun ⟨later, checked, _⟩ => ⟨later, checked⟩, fun ⟨_, checked⟩ => check_one_true checked⟩
  obtain ⟨records, run⟩ := verdict_comes_to around settings named template before
  rw [reports, check_stages, Action.run_bind, run]
  cases checkResult around settings named template with
  | error stop =>
      constructor
      · rintro ⟨_, told⟩
        cases told
      · rintro ⟨⟨_, ⟨⟩⟩, _⟩
  | ok result => exact announce_success_iff.trans (by simp)

theorem check_alone_iff {named : Option Path} {template : Path} :
    (∃ later, (check around settings ⟨[template], named⟩).run before = (.ok (), later)) ↔
      ReportsSuccess around settings named template before := by
  have alone : check around settings ⟨[template], named⟩ =
      checkOne around settings named template >>= fun success =>
        if success then pure () else throw .failed := by
    unfold check
    simp only [List.mapM_cons, List.mapM_nil, bind_assoc, pure_bind]
    congr 1
    funext success
    cases success <;> rfl
  rw [alone]
  constructor
  · rintro ⟨later, run⟩
    obtain ⟨success, between, checked, last⟩ := Action.of_bind_ok run
    cases success with
    | true => exact check_one_true checked
    | false => cases last
  · rintro ⟨later, checked, _⟩
    exact ⟨later, Action.run_bind_ok checked⟩

theorem check_stops {named : Option Path} {template : Path} {stop : Stop}
    (stops : checkResult around settings named template = .error stop) (others : List Path) :
    ComesTo (check around settings ⟨template :: others, named⟩) (.error stop) := by
  intro progress
  obtain ⟨records, run⟩ := verdict_comes_to around settings named template progress
  rw [stops] at run
  refine ⟨records, ?_⟩
  unfold check
  simp only [List.mapM_cons, bind_assoc]
  rw [check_stages, bind_assoc]
  exact Action.run_bind_error run

end Stages

/-- Options decide nothing in compiling. With the same loader it fails with the same fault for all
of them, or leads to trees that differ only in what the interpolations carry of tags that do not
ask for raw output, and in the config that each partial has for its own. So a template can be
rendered up to its compiling, whatever the flags and the data are, just if checking reports it as a
success, provided that the line for that can be printed. -/
theorem checking_agrees_with_rendering :
    (∀ (loader : Loader) (chain : List String) (source : Source),
      ∃ (result : Except Fault (List Segment)) (journal : Journal), ∀ options : Options,
        (Config.mk options loader).runCompile chain source =
          (result.map fun segments =>
            ⟨Segment.carryingAll ⟨options, loader⟩ segments, ⟨options, loader⟩⟩, journal) ∧
        ∀ segments, result = .ok segments →
          source.Becomes ⟨options, loader⟩ (Segment.carryingAll ⟨options, loader⟩ segments) ∧
            journal.Embedded ⟨options, loader⟩
              (Segment.carryingAll ⟨options, loader⟩ segments)) ∧
    ∀ around settings (request : RenderRequest) before data between,
      (loadData around request.data).run before = (.ok data, between) →
      (render around settings request = prepare around settings request >>= fun prepared =>
        produce around settings request prepared.1 prepared.2) ∧
      (Printable around (successLine request.template) → ∀ start,
        (ReportsSuccess around settings request.partials request.template start ↔
          PassesCompiling around settings request before) ∧
        ((∃ later, (check around settings ⟨[request.template], request.partials⟩).run start =
            (.ok (), later)) ↔ PassesCompiling around settings request before)) := by
  constructor
  · intro loader chain source
    obtain ⟨result, journal, runs⟩ := run_compile_carrying loader chain source
    refine ⟨result, journal, fun options => ⟨runs options, ?_⟩⟩
    rintro segments rfl
    have run := runs options
    have compiled : ((Config.mk options loader).runCompile chain source).1 =
        .ok ⟨Segment.carryingAll ⟨options, loader⟩ segments, ⟨options, loader⟩⟩ := by
      rw [run]
      rfl
    have becomes := compiled_becomes compiled
    rw [run] at becomes
    exact becomes
  · intro around settings request before data between loaded
    refine ⟨render_stages around settings request, fun printable start => ?_⟩
    have agrees : ReportsSuccess around settings request.partials request.template start ↔
        PassesCompiling around settings request before := by
      rw [reports_success_iff, and_iff_left printable, check_result_ok_iff,
        passes_compiling_iff loaded]
      simp only [compiles_congr around (request.options settings.compiler) settings.compiler]
    exact ⟨agrees, check_alone_iff.trans agrees⟩

section Runs

def withFiles (files : List (String × List UInt8)) : Surroundings :=
  ⟨files.foldl (fun tree file => tree.put [file.1] (.file file.2)) .empty, [], [], .standard⟩

/-- All flags of rendering are set, and checking knows none of them. -/
theorem success_is_told_without_the_flags :
    let around := withFiles [("t", [104, 105])]
    let request : RenderRequest := ⟨Path.read "t", none, none, none, true, true, some "d", true⟩
    (loadData around request.data).run (.fresh around) =
        (.ok (.mapping .dictionary []), .fresh around) ∧
      Printable around (successLine request.template) ∧
      PassesCompiling around .standard request (.fresh around) ∧
      ReportsSuccess around .standard none (Path.read "t") (.fresh around) := by
  intro around request
  have loaded : (loadData around request.data).run (.fresh around) =
      (.ok (.mapping .dictionary []), .fresh around) := rfl
  have octets : around.files.readOctets around.directory request.template = .ok [104, 105] := by
    exact except_of_to_option (by decide +kernel)
  have compiles : Compiles around (request.options Settings.standard.compiler)
      ⟨[], ".mustache"⟩ request.template := compiles_of_octets octets (by decide +kernel)
  have passes : PassesCompiling around .standard request (.fresh around) :=
    (passes_compiling_iff loaded).mpr ⟨_, rfl, compiles⟩
  have printable : Printable around (successLine request.template) := by decide +kernel
  refine ⟨loaded, printable, passes, ?_⟩
  exact ((checking_agrees_with_rendering.2 around .standard request _ _ _ loaded).2 printable
    (.fresh around)).1.mpr passes

def brokenFiles : Surroundings := withFiles [("bad", [255]), ("t", [104])]

/-- Two options that agree on escaping lead to trees that differ, because a partial has its config
for its own. And a template that compiles is not told of, if an earlier file is no text and ends
checking. -/
theorem partials_differ_and_success_is_untold :
    (let loader : Loader := .ofTable 1 [("p", "x")]
      let config (options : Options) : Config := ⟨options, loader⟩
      let tree (options : Options) : Except Fault (List Segment) :=
        ((config options).runCompile [] (.text "\x7b\x7b>p\x7d\x7d")).1.map Template.segments
      let other : Options := { Options.standard with defaultValue := .text "d" }
      ∃ segments others, tree .standard = .ok segments ∧ tree other = .ok others ∧
        segments ≠ others ∧ Segment.sameAll .empty segments others = .ok false) ∧
    let request : RenderRequest := ⟨Path.read "t", none, none, none, false, false, none, false⟩
    let before := Progress.fresh brokenFiles
    let checked := (check brokenFiles .standard ⟨[Path.read "bad", Path.read "t"], none⟩).run before
    PassesCompiling brokenFiles .standard request before ∧
      checked.1.isOk = false ∧ checked.2.printed = "" := by
  constructor
  · intro loader config tree other
    refine ⟨[.included "p" (config .standard) [.text "x"]],
      [.included "p" (config other) [.text "x"]], rfl, rfl, ?_, rfl⟩
    intro same
    have own := (Segment.included.inj (List.cons.inj same).1).2.1
    exact nomatch congrArg (·.options.defaultValue) own
  intro request before checked
  have loaded : (loadData brokenFiles request.data).run before =
      (.ok (.mapping .dictionary []), before) := rfl
  have good : brokenFiles.files.readOctets brokenFiles.directory (Path.read "t") = .ok [104] := by
    exact except_of_to_option (by decide +kernel)
  have bad : brokenFiles.files.readOctets brokenFiles.directory (Path.read "bad") = .ok [255] := by
    exact except_of_to_option (by decide +kernel)
  have placed : partialsFor brokenFiles .standard (Path.read "t") none =
      .ok ⟨[], ".mustache"⟩ := except_of_to_option (by decide +kernel)
  have passes : PassesCompiling brokenFiles .standard request before :=
    (passes_compiling_iff loaded).mpr ⟨_, placed, compiles_of_octets good (by decide +kernel)⟩
  have stops : checkResult brokenFiles .standard none (Path.read "bad") =
      .error (.crashed (.value .undecodable)) := by
    have refused : faultOf ((configWith brokenFiles .standard ⟨[], ".mustache"⟩).runCompile []
        (sourceOf [255])).1 = some (.value .undecodable) := by decide +kernel
    change fileResult brokenFiles (configWith brokenFiles .standard ⟨[], ".mustache"⟩)
      (Path.read "bad") = _
    unfold fileResult
    rw [bad]
    dsimp only
    rw [fault_of_eq_some.mp refused]
    rfl
  obtain ⟨records, run⟩ := check_stops stops [Path.read "t"] before
  refine ⟨passes, ?_⟩
  dsimp only [checked]
  rw [run]
  exact ⟨rfl, rfl⟩

end Runs

end Command

end Mustache
