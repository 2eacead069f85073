import ClassChart.CommandLine.Run
import ClassChart.Proofs.Build.Run
import ClassChart.Proofs.Settings.Layering
import Mathlib

/-! How a run can end, other than with help. Each ending is one of a few, and each but the last two comes
before anything is printed or written. A build cannot fail, so once settings and a directory are there
only the delivery of the diagram is left. -/
namespace ClassChart.CommandLine
open Files

def inputPath (disk : Disk) (o : Options) : String := fullPath disk (o.path.getD "")

def loaded (readers : Readers) (disk : Disk) (env : Option String) (o : Options) :
    Except Settings.LoadError Settings :=
  Settings.load readers.yaml disk o.config env o.overrides

/-- The report of a build of the files collected below the input directory. -/
def Drawn (readers : Readers) (disk : Disk) (o : Options) (s : Settings) (report : Build.Report) :
    Prop :=
  ∃ name entries, disk.find (inputPath disk o) = .ok (.dir name entries) ∧
    ((Build.Session.new s).build ((sourcePaths (inputPath disk o) (.dir name entries) s.exclude).map
      (Source.reading readers.parse disk (inputPath disk o)))).2 = .ok report

/-- What a run does, without what it says on the side. -/
def Outcome.effect (r : Outcome) : Nat × String × Option (List String × String) :=
  (r.status, r.out, r.written)

@[simp]
theorem usageFailure_status (message : String) : (usageFailure message).status = 2 := rfl

@[simp]
theorem failure_status (message : String) : (failure message).status = 1 := rfl

@[simp]
theorem breakOff_status (fault : Settings.FileFault) : (breakOff fault).status = 1 := rfl

inductive Ending (readers : Readers) (disk : Disk) (env : Option String) (args : List String) :
    Outcome → Prop
  | badArguments {e : ArgumentError} (hrequest : request args = .error e) :
      Ending readers disk env args (usageFailure e.message)
  | badSettings {o : Options} {e : SettingsError} (hrequest : request args = .ok (.draw o))
      (hload : loaded readers disk env o = .error (.settings e)) :
      Ending readers disk env args (usageFailure e.message)
  | brokenOff {o : Options} {fault : Settings.FileFault} (hrequest : request args = .ok (.draw o))
      (hload : loaded readers disk env o = .error (.file fault)) : Ending readers disk env args (breakOff fault)
  | noDirectory {o : Options} {s : Settings} (hrequest : request args = .ok (.draw o))
      (hload : loaded readers disk env o = .ok s) (hdir : disk.isDir (inputPath disk o) = false) :
      Ending readers disk env args (failure ("Input path is not a directory: " ++ inputPath disk o))
  | refused {o : Options} {s : Settings} {cause : Cause} (hrequest : request args = .ok (.draw o))
      (hload : loaded readers disk env o = .ok s) (hdir : disk.isDir (inputPath disk o) = true)
      (hout : o.output ≠ "-") (hrefusal : disk.refusal? (resolve disk.cwd o.output) = some cause) :
      Ending readers disk env args (failure ("Cannot write " ++ fullPath disk o.output ++ ": " ++
        cause.message (fullPath disk o.output)))
  | printed {o : Options} {s : Settings} {report : Build.Report}
      (hrequest : request args = .ok (.draw o)) (hload : loaded readers disk env o = .ok s)
      (hdir : disk.isDir (inputPath disk o) = true) (hdrawn : Drawn readers disk o s report)
      (hout : o.output = "-") :
      Ending readers disk env args
        ⟨0, Diagram.render true report.chart, remarks o.verbose report, none, none⟩
  | written {o : Options} {s : Settings} {report : Build.Report}
      (hrequest : request args = .ok (.draw o)) (hload : loaded readers disk env o = .ok s)
      (hdir : disk.isDir (inputPath disk o) = true) (hdrawn : Drawn readers disk o s report)
      (hout : o.output ≠ "-") (hrefusal : disk.refusal? (resolve disk.cwd o.output) = none) :
      Ending readers disk env args
        ⟨0, "Diagram generated at: " ++ fullPath disk o.output ++ "\n", remarks o.verbose report,
          some (resolve disk.cwd o.output, Diagram.render true report.chart), none⟩

section
variable {readers : Readers} {disk : Disk} {env : Option String} {args : List String} {o : Options} {s : Settings}

theorem exists_build_new (s : Settings) (readings : List Build.Reading) :
    ∃ report, ((Build.Session.new s).build readings).2 = .ok report :=
  ⟨_, congrArg Prod.snd (Build.build_new (Build.report_eq s _ _))⟩

theorem isDir_iff {path : String} :
    disk.isDir path = true ↔ ∃ name entries, disk.find path = .ok (.dir name entries) := by
  rw [Disk.isDir]
  cases disk.find path with
  | error cause => simp
  | ok entry => cases entry <;> simp [Entry.isDir]

theorem exists_drawn (s : Settings) (hdir : disk.isDir (inputPath disk o) = true) :
    ∃ report, Drawn readers disk o s report := by
  obtain ⟨name, entries, hfind⟩ := isDir_iff.mp hdir
  obtain ⟨report, hbuild⟩ := exists_build_new s ((sourcePaths (inputPath disk o)
    (.dir name entries) s.exclude).map (Source.reading readers.parse disk (inputPath disk o)))
  exact ⟨report, name, entries, hfind, hbuild⟩

theorem draw_of_drawn {report : Build.Report} (h : Drawn readers disk o s report) :
    draw readers disk o s = deliver disk o report := by
  obtain ⟨name, entries, hfind, hbuild⟩ := h
  rw [inputPath] at hfind hbuild
  rw [draw]
  simp only [hfind, hbuild]

theorem draw_of_not_dir (hdir : disk.isDir (inputPath disk o) = false) :
    draw readers disk o s = failure ("Input path is not a directory: " ++ inputPath disk o) := by
  have hnone (name : String) (entries : List Entry) :
      disk.find (inputPath disk o) ≠ .ok (.dir name entries) := by
    intro hfind
    rw [isDir_iff.mpr ⟨name, entries, hfind⟩] at hdir
    exact absurd hdir (by decide)
  rw [inputPath] at hnone ⊢
  rw [draw]
  cases hfind : disk.find (fullPath disk (o.path.getD "")) with
  | error cause => rfl
  | ok entry =>
    cases entry with
    | dir name entries => exact absurd hfind (hnone name entries)
    | file => rfl
    | locked => rfl

theorem deliver_printed (hout : o.output = "-") (report : Build.Report) :
    deliver disk o report =
      ⟨0, Diagram.render true report.chart, remarks o.verbose report, none, none⟩ :=
  if_pos hout

theorem deliver_written (hout : o.output ≠ "-") (report : Build.Report)
    (hrefusal : disk.refusal? (resolve disk.cwd o.output) = none) :
    deliver disk o report =
      ⟨0, "Diagram generated at: " ++ fullPath disk o.output ++ "\n", remarks o.verbose report,
        some (resolve disk.cwd o.output, Diagram.render true report.chart), none⟩ := by
  rw [deliver, if_neg hout]
  simp only [hrefusal]

theorem deliver_refused (hout : o.output ≠ "-") (report : Build.Report) {cause : Cause}
    (hrefusal : disk.refusal? (resolve disk.cwd o.output) = some cause) :
    deliver disk o report = failure ("Cannot write " ++ fullPath disk o.output ++ ": " ++
      cause.message (fullPath disk o.output)) := by
  rw [deliver, if_neg hout]
  simp only [hrefusal]

theorem ending_of_loaded (hrequest : request args = .ok (.draw o)) (hload : loaded readers disk env o = .ok s) :
    Ending readers disk env args (draw readers disk o s) := by
  cases hdir : disk.isDir (inputPath disk o) with
  | false =>
    rw [draw_of_not_dir hdir]
    exact .noDirectory hrequest hload hdir
  | true =>
    obtain ⟨report, hdrawn⟩ := exists_drawn s hdir
    rw [draw_of_drawn hdrawn]
    by_cases hout : o.output = "-"
    · rw [deliver_printed hout]
      exact .printed hrequest hload hdir hdrawn hout
    · cases hrefusal : disk.refusal? (resolve disk.cwd o.output) with
      | none =>
        rw [deliver_written hout report hrefusal]
        exact .written hrequest hload hdir hdrawn hout hrefusal
      | some cause =>
        rw [deliver_refused hout report hrefusal]
        exact .refused hrequest hload hdir hout hrefusal

theorem run_of_draw (hrequest : request args = .ok (.draw o)) :
    run readers disk env args =
      match loaded readers disk env o with
      | .error (.settings e) => usageFailure e.message
      | .error (.file fault) => breakOff fault
      | .ok s => draw readers disk o s := by
  rw [run, hrequest]
  rfl

theorem run_of_arguments {e : ArgumentError} (hrequest : request args = .error e) :
    run readers disk env args = usageFailure e.message := by
  rw [run, hrequest]

theorem run_of_settings {e : SettingsError} (hrequest : request args = .ok (.draw o))
    (hload : loaded readers disk env o = .error (.settings e)) :
    run readers disk env args = usageFailure e.message := by
  rw [run_of_draw hrequest, hload]

theorem run_of_fault {fault : Settings.FileFault} (hrequest : request args = .ok (.draw o))
    (hload : loaded readers disk env o = .error (.file fault)) : run readers disk env args = breakOff fault := by
  rw [run_of_draw hrequest, hload]

theorem run_of_loaded (hrequest : request args = .ok (.draw o)) (hload : loaded readers disk env o = .ok s) :
    run readers disk env args = draw readers disk o s := by
  rw [run_of_draw hrequest, hload]

theorem run_ending (hhelp : request args ≠ .ok .help) :
    Ending readers disk env args (run readers disk env args) := by
  cases hrequest : request args with
  | error e =>
    rw [run_of_arguments hrequest]
    exact .badArguments hrequest
  | ok asked =>
    cases asked with
    | help => exact absurd hrequest hhelp
    | draw o =>
      cases hload : loaded readers disk env o with
      | ok s =>
        rw [run_of_loaded hrequest hload]
        exact ending_of_loaded hrequest hload
      | error e =>
        cases e with
        | settings e =>
          rw [run_of_settings hrequest hload]
          exact .badSettings hrequest hload
        | file fault =>
          rw [run_of_fault hrequest hload]
          exact .brokenOff hrequest hload

end

namespace Ending
variable {readers : Readers} {disk : Disk} {env : Option String} {args : List String} {r : Outcome}

theorem status_le (h : Ending readers disk env args r) : r.status = 0 ∨ r.status = 1 ∨ r.status = 2 := by
  cases h with
  | badArguments | badSettings => exact .inr (.inr rfl)
  | brokenOff | noDirectory | refused => exact .inr (.inl rfl)
  | printed | written => exact .inl rfl

theorem nothing_done (h : Ending readers disk env args r) (hstatus : r.status ≠ 0) :
    r.out = "" ∧ r.written = none := by
  cases h with
  | badArguments | badSettings | brokenOff | noDirectory | refused => exact ⟨rfl, rfl⟩
  | printed | written => exact absurd rfl hstatus

theorem delivered (h : Ending readers disk env args r) (hstatus : r.status = 0) :
    ∃ o s report, request args = .ok (.draw o) ∧ loaded readers disk env o = .ok s ∧
      Drawn readers disk o s report ∧
      (o.output = "-" ∧ r.out = Diagram.render true report.chart ∧ r.written = none ∨
        o.output ≠ "-" ∧ r.out = "Diagram generated at: " ++ fullPath disk o.output ++ "\n" ∧
          r.written = some (resolve disk.cwd o.output, Diagram.render true report.chart)) := by
  cases h with
  | badArguments | badSettings => exact absurd hstatus (by simp)
  | brokenOff | noDirectory | refused => exact absurd hstatus (by simp)
  | printed hrequest hload _ hdrawn hout =>
    exact ⟨_, _, _, hrequest, hload, hdrawn, .inl ⟨hout, rfl, rfl⟩⟩
  | written hrequest hload _ hdrawn hout _ =>
    exact ⟨_, _, _, hrequest, hload, hdrawn, .inr ⟨hout, rfl, rfl⟩⟩

theorem of_status_two (h : Ending readers disk env args r) (hstatus : r.status = 2) :
    (∃ e, request args = .error e) ∨
      ∃ o e, request args = .ok (.draw o) ∧ loaded readers disk env o = .error (.settings e) := by
  cases h with
  | badArguments hrequest => exact .inl ⟨_, hrequest⟩
  | badSettings hrequest hload => exact .inr ⟨_, _, hrequest, hload⟩
  | brokenOff | noDirectory | refused => exact absurd hstatus (by simp)
  | printed | written => exact absurd hstatus (by simp)

theorem of_status_one (h : Ending readers disk env args r) (hstatus : r.status = 1) :
    ∃ o, request args = .ok (.draw o) ∧
      ((∃ fault, loaded readers disk env o = .error (.file fault)) ∨
        ∃ s, loaded readers disk env o = .ok s ∧ (disk.isDir (inputPath disk o) = false ∨
          o.output ≠ "-" ∧ disk.refusal? (resolve disk.cwd o.output) ≠ none)) := by
  cases h with
  | badArguments | badSettings => exact absurd hstatus (by simp)
  | brokenOff hrequest hload => exact ⟨_, hrequest, .inl ⟨_, hload⟩⟩
  | noDirectory hrequest hload hdir => exact ⟨_, hrequest, .inr ⟨_, hload, .inl hdir⟩⟩
  | refused hrequest hload _ hout hrefusal =>
    refine ⟨_, hrequest, .inr ⟨_, hload, .inr ⟨hout, ?_⟩⟩⟩
    rw [hrefusal]
    exact Option.some_ne_none _
  | printed | written => exact absurd hstatus (by simp)

end Ending

section
variable {readers : Readers} {disk : Disk} {env : Option String} {args args' : List String} {o o' : Options}

theorem deliver_effect_eq (hout : o'.output = o.output) (report : Build.Report) :
    (deliver disk o' report).effect = (deliver disk o report).effect := by
  by_cases h : o.output = "-"
  · rw [deliver_printed h, deliver_printed (hout.trans h)]
    rfl
  · have h' : o'.output ≠ "-" := hout ▸ h
    cases hrefusal : disk.refusal? (resolve disk.cwd o.output) with
    | none =>
      rw [deliver_written h report hrefusal, deliver_written h' report (hout ▸ hrefusal), hout]
      rfl
    | some cause =>
      rw [deliver_refused h report hrefusal, deliver_refused h' report (hout ▸ hrefusal), hout]

/- Both runs read the same directory, so the report of one is that of the other. -/
theorem draw_effect_eq (hpath : o'.path = o.path) (hout : o'.output = o.output) (s : Settings) :
    (draw readers disk o' s).effect = (draw readers disk o s).effect := by
  have hinput : inputPath disk o' = inputPath disk o := by rw [inputPath, inputPath, hpath]
  cases hdir : disk.isDir (inputPath disk o) with
  | false => rw [draw_of_not_dir hdir, draw_of_not_dir (hinput ▸ hdir), hinput]
  | true =>
    obtain ⟨report, hdrawn⟩ := exists_drawn s hdir
    have hdrawn' : Drawn readers disk o' s report := by
      rw [Drawn, hinput]
      exact hdrawn
    rw [draw_of_drawn hdrawn, draw_of_drawn hdrawn', deliver_effect_eq hout]

theorem run_effect_eq {v : Bool} {level : String} (hrequest : request args = .ok (.draw o))
    (hrequest' : request args' = .ok (.draw { o with verbose := v, logLevel := level })) :
    (run readers disk env args').effect = (run readers disk env args).effect := by
  have hoverrides : Options.overrides { o with verbose := v, logLevel := level } = o.overrides := rfl
  have hload : loaded readers disk env { o with verbose := v, logLevel := level } = loaded readers disk env o := by
    rw [loaded, loaded, hoverrides]
  cases h : loaded readers disk env o with
  | ok s =>
    rw [run_of_loaded hrequest h, run_of_loaded hrequest' (hload.trans h)]
    refine draw_effect_eq ?_ ?_ s <;> rfl
  | error e =>
    cases e with
    | settings e => rw [run_of_settings hrequest h, run_of_settings hrequest' (hload.trans h)]
    | file fault => rw [run_of_fault hrequest h, run_of_fault hrequest' (hload.trans h)]

end

section
variable {readers : Readers} {disk : Disk} {env : Option String} {args : List String} {o : Options} {s : Settings}

theorem status_of_input (hrequest : request args = .ok (.draw o)) (hload : loaded readers disk env o = .ok s)
    (hfail : disk.isDir (inputPath disk o) = false ∨
      o.output ≠ "-" ∧ disk.refusal? (resolve disk.cwd o.output) ≠ none) :
    (run readers disk env args).status = 1 := by
  rw [run_of_loaded hrequest hload]
  cases hdir : disk.isDir (inputPath disk o) with
  | false =>
    rw [draw_of_not_dir hdir]
    rfl
  | true =>
    obtain ⟨hout, hrefusal⟩ := hfail.resolve_left (by simp [hdir])
    obtain ⟨cause, hcause⟩ := Option.ne_none_iff_exists'.mp hrefusal
    obtain ⟨report, hdrawn⟩ := exists_drawn s hdir
    rw [draw_of_drawn hdrawn, deliver_refused hout report hcause]
    rfl

end

/-- A run is all or nothing. It ends well only with the diagram of the collected files, delivered in one
place, and without any sign of how much was to be said on the side; no file and no diagnostic can keep
the build from its report. Otherwise nothing is printed and nothing written, and the status tells an
error in the arguments or settings from one of the input, of the output, or of a settings file on
which something else went wrong than that it was refused. -/
theorem run_all_or_nothing (readers : Readers) (disk : Disk) (env : Option String) (args : List String)
    (hhelp : request args ≠ .ok .help) :
    let r := run readers disk env args
    (r.status ≠ 0 → r.out = "" ∧ r.written = none) ∧
    (r.status = 0 → ∃ o s report, request args = .ok (.draw o) ∧ loaded readers disk env o = .ok s ∧
      Drawn readers disk o s report ∧
      (o.output = "-" ∧ r.out = Diagram.render true report.chart ∧ r.written = none ∨
        o.output ≠ "-" ∧ r.out = "Diagram generated at: " ++ fullPath disk o.output ++ "\n" ∧
          r.written = some (resolve disk.cwd o.output, Diagram.render true report.chart))) ∧
    (r.status = 2 ↔ (∃ e, request args = .error e) ∨
      ∃ o e, request args = .ok (.draw o) ∧ loaded readers disk env o = .error (.settings e)) ∧
    (r.status = 1 ↔ ∃ o, request args = .ok (.draw o) ∧
      ((∃ fault, loaded readers disk env o = .error (.file fault)) ∨
        ∃ s, loaded readers disk env o = .ok s ∧ (disk.isDir (inputPath disk o) = false ∨
          o.output ≠ "-" ∧ disk.refusal? (resolve disk.cwd o.output) ≠ none))) ∧
    (r.status = 0 ∨ r.status = 1 ∨ r.status = 2) ∧
    ∀ args' o v level, request args = .ok (.draw o) →
      request args' = .ok (.draw { o with verbose := v, logLevel := level }) →
      (run readers disk env args').effect = r.effect := by
  intro r
  have hending : Ending readers disk env args r := run_ending hhelp
  refine ⟨hending.nothing_done, hending.delivered, ⟨hending.of_status_two, ?_⟩,
    ⟨hending.of_status_one, ?_⟩, hending.status_le, fun args' o v level => run_effect_eq⟩
  · rintro (⟨e, hrequest⟩ | ⟨o, e, hrequest, hload⟩)
    · exact congrArg Outcome.status (run_of_arguments hrequest)
    · exact congrArg Outcome.status (run_of_settings hrequest hload)
  · rintro ⟨o, hrequest, ⟨fault, hload⟩ | ⟨s, hload, hfail⟩⟩
    · exact congrArg Outcome.status (run_of_fault hrequest hload)
    · exact status_of_input hrequest hload hfail

section

/- A project with one source file that is not well-formed, and a settings file. -/
def project (settings : List UInt8) : Disk :=
  ⟨.dir "" [.dir "s" [.file "a.cs" "class \x7b \x7d".toUTF8.toList], .file "c" settings], []⟩

/-- The tree of the source file, and the value of a settings file that says nothing. -/
def projectReaders : Readers where
  parse _ :=
    let node (kind : Syntax.NodeKind) (start stop : Nat) (children : List Syntax.Node) : Syntax.Node :=
      .mk ⟨kind, start, stop, none, true, false, false⟩ children
    node (.other "compilation_unit") 0 9 [node .error 0 5 [], node (.other "global_statement") 6 9 []]
  yaml := ⟨fun _ => .ok .null, fun _ => false⟩

def toStandardOutput : Options := { Options.default with path := some "s", output := "-" }

theorem request_toStandardOutput : request ["-p", "s", "-o", "-"] = .ok (.draw toStandardOutput) := by
  cbv

variable (settings : List UInt8)

theorem project_find : (project settings).find (inputPath (project settings) toStandardOutput) =
    .ok (.dir "s" [.file "a.cs" "class \x7b \x7d".toUTF8.toList]) := by
  cbv

theorem project_isDir : (project settings).isDir (inputPath (project settings) toStandardOutput) = true :=
  isDir_iff.mpr ⟨_, _, project_find settings⟩

theorem project_fileSection : Settings.fileSection projectReaders.yaml (project settings) none (some "c") =
    Settings.readSection projectReaders.yaml (project settings) "c" := by
  have hfile : Settings.fileFor? (project settings) none (some "c") = some "c" := by cbv
  rw [Settings.fileSection, hfile]

theorem project_loaded :
    loaded projectReaders (project []) (some "c") toStandardOutput = .ok Settings.default := by
  have hread : Settings.readSection projectReaders.yaml (project []) "c" = .ok [] := by cbv
  have hdefault : Settings.ofSection [] = .ok Settings.default := by cbv
  have hnone : toStandardOutput.overrides = [] := rfl
  have hoverlay : Settings.default.overlay toStandardOutput.overrides = .ok Settings.default :=
    Settings.overlay_nothing _ (by simp [hnone])
  refine (Settings.load_of_section ((project_fileSection []).trans hread) hdefault).trans ?_
  rw [hoverlay]
  rfl

theorem project_diagnostics {report : Build.Report}
    (h : Drawn projectReaders (project []) toStandardOutput Settings.default report) :
    report.diagnostics ≠ [] := by
  obtain ⟨name, entries, hfind, hbuild⟩ := h
  rw [project_find] at hfind
  obtain ⟨rfl, rfl⟩ := Entry.dir.inj (Except.ok.inj hfind)
  have hinput : inputPath (project []) toStandardOutput = "/s" := by decide +kernel
  have hpaths : sourcePaths "/s" (.dir "s" [.file "a.cs" "class \x7b \x7d".toUTF8.toList])
      Settings.default.exclude = ["/s/a.cs"] := by
    decide +kernel
  rw [hinput, hpaths, List.map_singleton] at hbuild
  have hcount : ((Build.Session.new Settings.default).build
      [Source.reading projectReaders.parse (project []) "/s" "/s/a.cs"]).2.toOption.map
        (·.diagnostics.length) = some 1 := by
    decide +kernel
  rw [hbuild] at hcount
  exact List.ne_nil_of_length_eq_add_one (Option.some.inj hcount)

/-- With an empty settings file the diagram is printed, however much is to be told. -/
theorem run_all_or_nothing_of_empty :
    let r := run projectReaders (project []) (some "c") ["-p", "s", "-o", "-"]
    request ["-p", "s", "-o", "-"] ≠ .ok .help ∧ r.status = 0 ∧ r.written = none ∧
      (∃ report, Drawn projectReaders (project []) toStandardOutput Settings.default report ∧
        report.diagnostics ≠ [] ∧ r.out = Diagram.render true report.chart) ∧
      (run projectReaders (project []) (some "c") ["-v", "-p", "s", "-o", "-"]).effect = r.effect := by
  intro r
  have hhelp : request ["-p", "s", "-o", "-"] ≠ .ok .help := by simp [request_toStandardOutput]
  obtain ⟨-, hdelivered, htwo, hone, hstatus, hquiet⟩ :=
    run_all_or_nothing projectReaders (project []) (some "c") _ hhelp
  simp only [request_toStandardOutput, Except.ok.injEq, Request.draw.injEq] at hdelivered htwo hone
  have hnotOne : r.status ≠ 1 := by
    intro h
    obtain ⟨_, rfl, ⟨fault, hfault⟩ | ⟨s, -, hno | hout⟩⟩ := hone.mp h
    · simp [project_loaded] at hfault
    · simp [project_isDir] at hno
    · exact hout.1 rfl
  have hnotTwo : r.status ≠ 2 := by
    intro h
    obtain ⟨e, he⟩ | ⟨_, e, rfl, he⟩ := htwo.mp h
    · simp at he
    · simp [project_loaded] at he
  have hzero : r.status = 0 := hstatus.resolve_right (not_or.mpr ⟨hnotOne, hnotTwo⟩)
  obtain ⟨_, s, report, rfl, hloaded, hdrawn, hways⟩ := hdelivered hzero
  obtain rfl : Settings.default = s := Except.ok.inj (project_loaded.symm.trans hloaded)
  obtain ⟨-, hout, hwritten⟩ := hways.resolve_right fun h => h.1 rfl
  have hverbose : request ["-v", "-p", "s", "-o", "-"] =
      .ok (.draw { toStandardOutput with verbose := true }) := by cbv
  exact ⟨hhelp, hzero, hwritten, ⟨report, hdrawn, project_diagnostics hdrawn, hout⟩,
    hquiet _ _ true toStandardOutput.logLevel request_toStandardOutput hverbose⟩

/-- A settings file that is no text ends a run with the status of an unusable input or output, although
the input is a directory and the output is not a file. -/
theorem run_broken_by_settings : ∃ o, request ["-p", "s", "-o", "-"] = .ok (.draw o) ∧
    (project [0xFF]).isDir (inputPath (project [0xFF]) o) = true ∧ o.output = "-" ∧
    (run projectReaders (project [0xFF]) (some "c") ["-p", "s", "-o", "-"]).status = 1 := by
  have hread : Settings.readSection projectReaders.yaml (project [0xFF]) "c" =
      .error (.file (.notText ⟨0, 0xFF, 0, .badStart⟩)) := by cbv
  have hload : loaded projectReaders (project [0xFF]) (some "c") toStandardOutput =
      .error (.file (.notText ⟨0, 0xFF, 0, .badStart⟩)) :=
    Settings.load_of_error ((project_fileSection [0xFF]).trans hread)
  exact ⟨_, request_toStandardOutput, project_isDir _, rfl,
    congrArg Outcome.status (run_of_fault request_toStandardOutput hload)⟩

end

end ClassChart.CommandLine
