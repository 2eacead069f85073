import ClassChart.Proofs.Build.Run
import ClassChart.Source.File

/-! Files that fail: those that no reader takes, and those that report an error. Nothing in a failed
file is built from, so beside its own problems and the count of failed files a report is what it would
be without that file. -/
namespace ClassChart

theorem Source.reading_unsupported {path : String} (h : Files.languageOf? path = none)
    (parse : Parser) (disk : Files.Disk) (root : String) :
    reading parse disk root path = .error ⟨path, 0, (ReaderError.noReader path).message, .error⟩ := by
  simp only [reading, unitAt, h]
  rfl

theorem Source.severity_of_reading {parse : Parser} {disk : Files.Disk} {root path : String}
    {fault : ReadFault} (h : reading parse disk root path = .error fault) :
    fault.severity = .error := by
  unfold reading at h
  cases hunit : unitAt parse disk root path with
  | ok u => simp [hunit, Except.mapError] at h
  | error e =>
    rw [hunit] at h
    rw [← Except.error.inj h]

namespace Build

/-- A file fails if no reader takes it, or by what it reports. -/
def Reading.failed : Reading → Bool
  | .ok u => u.failed
  | .error _ => true

section
variable {xs ys : List SourceUnit} {u : SourceUnit}

theorem declarationsOf_insert (hu : u.failed = true) :
    declarationsOf (xs ++ u :: ys) = declarationsOf (xs ++ ys) := by
  simp [declarationsOf, hu]

theorem faultNotes_append (xs ys : List SourceUnit) :
    faultNotes (xs ++ ys) = faultNotes xs ++ faultNotes ys :=
  List.flatMap_append ..

theorem faultNotes_insert (xs ys : List SourceUnit) (u : SourceUnit) :
    faultNotes (xs ++ u :: ys) =
      faultNotes xs ++ u.faults.map (·.diagnostic) ++ faultNotes ys := by
  rw [faultNotes_append, List.append_assoc]
  rfl

end

/-- `r'` reports what `r` does and one more failed file, whose problems `own` stand behind the
`earlier` ones of the files before it. -/
structure Report.WithFailed (earlier own : List Diagnostic) (r r' : Report) : Prop where
  chart : r'.chart = r.chart
  filesRead : r'.filesRead = r.filesRead
  declarationsSeen : r'.declarationsSeen = r.declarationsSeen
  filesFailed : r'.filesFailed = r.filesFailed + 1
  diagnostics : ∃ later, r.diagnostics = earlier ++ later ∧
    r'.diagnostics = earlier ++ own ++ later

theorem report_insert (s : Settings) (xs ys : List SourceUnit) {u : SourceUnit}
    (hu : u.failed = true) :
    ∃ r r', report s [] (xs ++ ys) = .ok r ∧ report s [] (xs ++ u :: ys) = .ok r' ∧
      r.WithFailed (faultNotes xs) (u.faults.map (·.diagnostic)) r' := by
  have hdeclarations : declarationsOf (xs ++ u :: ys) = declarationsOf (xs ++ ys) :=
    declarationsOf_insert hu
  have hprogress := progress_congr s hdeclarations
  refine ⟨_, _, report_eq s [] _, report_eq s [] _, ?_⟩
  constructor
  · simp only [hprogress]
  · simp [hu]
  · simp only [hdeclarations]
  · simp [hu]
    omega
  · refine ⟨faultNotes ys ++ (progress s (xs ++ ys)).notes, ?_, ?_⟩
    · simp only [faultNotes_append, List.nil_append, List.append_assoc]
    · simp only [faultNotes_insert, hprogress, List.nil_append, List.append_assoc]

section
variable {readings : List Reading}

/- The failed units and the refused files, counted apart, are the files that fail. -/
theorem count_failed (h : ∀ fault, .error fault ∈ readings → fault.severity = .error) :
    (readings.filterMap refusal?).countP isError +
        ((readings.filterMap (·.toOption)).filter (·.failed)).length =
      readings.countP Reading.failed := by
  induction readings with
  | nil => rfl
  | cons reading rest ih =>
    have hcount := ih fun fault hfault => h fault (List.mem_cons_of_mem _ hfault)
    rw [List.countP_cons]
    cases reading with
    | ok u =>
      have hrefusals : (.ok u :: rest).filterMap refusal? = rest.filterMap refusal? := rfl
      have hunits : (.ok u :: rest : List Reading).filterMap (·.toOption) =
          u :: rest.filterMap (·.toOption) := rfl
      rw [hrefusals, hunits, List.filter_cons, Reading.failed]
      cases u.failed with
      | true =>
        rw [if_pos rfl, if_pos rfl, List.length_cons]
        omega
      | false => exact hcount
    | error fault =>
      have hrefusals : (.error fault :: rest).filterMap refusal? =
          fault.diagnostic :: rest.filterMap refusal? := rfl
      have hunits : (.error fault :: rest : List Reading).filterMap (·.toOption) =
          rest.filterMap (·.toOption) := rfl
      have hsevere : isError fault.diagnostic = true := decide_eq_true (h fault List.mem_cons_self)
      rw [hrefusals, hunits, List.countP_cons, if_pos hsevere, Reading.failed, if_pos rfl]
      omega

theorem count_read (readings : List Reading) :
    ((readings.filterMap (·.toOption)).filter (!·.failed)).length =
      readings.countP (¬Reading.failed ·) := by
  rw [← List.countP_eq_length_filter, List.countP_filterMap]
  refine List.countP_congr fun reading _ => ?_
  cases reading with
  | ok u => simp [Except.toOption, Reading.failed]
  | error fault => simp [Except.toOption, Reading.failed]

theorem build_counts (s : Settings)
    (h : ∀ fault, .error fault ∈ readings → fault.severity = .error) :
    ∃ r, ((Session.new s).build readings).2 = .ok r ∧
      r.filesFailed = readings.countP Reading.failed ∧
      r.filesRead + r.filesFailed = readings.length := by
  have hfailed := count_failed h
  have htotal : readings.length =
      readings.countP Reading.failed + readings.countP (¬Reading.failed ·) :=
    List.length_eq_countP_add_countP Reading.failed
  refine ⟨_, congrArg Prod.snd (build_new (report_eq s _ _)), hfailed, ?_⟩
  rw [htotal, Nat.add_comm]
  exact congrArg₂ (· + ·) hfailed (count_read readings)

end

/-- A failed file is isolated: between any others it adds its problems in its place and is counted,
and nothing else of the report depends on it. Every file counts as read or as failed, whatever trees
their texts have; one without the extension of a language is among the failed ones. -/
theorem failed_files_isolated (s : Settings) :
    (∀ (xs ys : List SourceUnit) (u : SourceUnit), u.failed = true →
      ∃ r r', ((Session.new s).buildUnits (xs ++ ys)).2 = .ok r ∧
        ((Session.new s).buildUnits (xs ++ u :: ys)).2 = .ok r' ∧
        r.WithFailed (faultNotes xs) (u.faults.map (·.diagnostic)) r') ∧
    (∀ units, ∃ r, ((Session.new s).buildUnits units).2 = .ok r ∧
      r.filesRead + r.filesFailed = units.length) ∧
    ∀ (parse : Source.Parser) (disk : Files.Disk) (root : String) (paths : List String),
      ∃ r, ((Session.new s).build (paths.map (Source.reading parse disk root))).2 = .ok r ∧
        r.filesRead + r.filesFailed = paths.length ∧
        r.filesFailed = paths.countP (Reading.failed <| Source.reading parse disk root ·) ∧
        ∀ path, Files.languageOf? path = none →
          Reading.failed (Source.reading parse disk root path) = true := by
  refine ⟨fun xs ys u hu => ?_, fun units => ?_, fun parse disk root paths => ?_⟩
  · obtain ⟨r, r', hreport, hreport', hwith⟩ := report_insert s xs ys hu
    exact ⟨r, r', buildUnits_new hreport, buildUnits_new hreport', hwith⟩
  · have hsevere : ∀ fault, .error fault ∈ (units.map .ok : List Reading) →
        fault.severity = .error := by
      simp
    obtain ⟨r, hbuild, _, hcounts⟩ := build_counts s hsevere
    exact ⟨r, hbuild, by rw [hcounts, List.length_map]⟩
  · have hsevere : ∀ fault, .error fault ∈ paths.map (Source.reading parse disk root) →
        fault.severity = .error := by
      intro fault hfault
      obtain ⟨path, _, hpath⟩ := List.mem_map.mp hfault
      exact Source.severity_of_reading hpath
    obtain ⟨r, hbuild, hfailed, hcounts⟩ := build_counts s hsevere
    refine ⟨r, hbuild, ?_, ?_, fun path hpath => ?_⟩
    · rw [hcounts, List.length_map]
    · rw [hfailed, List.countP_map]
      rfl
    · rw [Source.reading_unsupported hpath]
      rfl

/-- A file with an error, which declares a type of the file before it and an interface that the file
after it names. -/
theorem failed_files_isolated_of_order :
    let order : SourceUnit := ⟨"a.cs", [⟨"Order", "class", "a.cs", "Shop", [], [], [],
      [⟨"Total", "property", ["public"], "decimal", 2⟩], [], 1⟩], []⟩
    let broken : SourceUnit := ⟨"b.cs",
      [⟨"Order", "struct", "b.cs", "Shop", [], [], [], [], [], 1⟩,
        ⟨"Priced", "interface", "b.cs", "Shop", [], [], [], [], [], 3⟩],
      [⟨"b.cs", 1, "Syntax error near line 1; declarations after it may be incomplete", .warning⟩,
        ⟨"b.cs", 0, "Declaration extraction failed: bad node", .error⟩]⟩
    let client : SourceUnit := ⟨"c.cs", [⟨"Client", "class", "c.cs", "Shop", [], [],
      [⟨"Priced", "Priced", ""⟩], [⟨"Last", "property", ["public"], "Order", 2⟩], [], 1⟩], []⟩
    broken.failed = true ∧
      ∃ r r', ((Session.new .default).buildUnits ([order] ++ [client])).2 = .ok r ∧
        ((Session.new .default).buildUnits ([order] ++ broken :: [client])).2 = .ok r' ∧
        r.WithFailed (faultNotes [order]) (broken.faults.map (·.diagnostic)) r' := by
  intro order broken client
  have hbroken : broken.failed = true := by decide
  exact ⟨hbroken, (failed_files_isolated .default).1 [order] [client] broken hbroken⟩

end Build
end ClassChart
