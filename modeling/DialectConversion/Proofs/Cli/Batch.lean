import DialectConversion.Cli.Run
import DialectConversion.Proofs.Conversion.Dispatch

/-! Batches with inputs that do not convert. Such inputs cost a run its success and leave a line among the
messages; what the run writes is what it would write without them. -/
namespace DialectConversion.Cli
set_option autoImplicit false

/-! ## Recorded runs -/

/-- What a run finds outside: the texts that can be read, or why they cannot, and whether a file can be
written. -/
structure Site where
  file : String → Except String String
  input : Except String String
  save : String → String → Except String Unit
  colored : Bool

/-- What a run has written, in order: to standard output, to standard error and to files. -/
structure Traces where
  printed : String := ""
  errors : String := ""
  saved : List (String × String) := []

/-- The surroundings of a run at a site, where everything that is written is recorded. -/
def Site.surroundings (site : Site) : Surroundings (StateM Traces) where
  load path := pure (site.file path)
  input := pure site.input
  save path content :=
    match site.save path content with
    | .ok () => do
      modify fun t => { t with saved := t.saved ++ [(path, content)] }
      pure (.ok ())
    | .error reason => pure (.error reason)
  print text := modify fun t => { t with printed := t.printed ++ text }
  printError text := modify fun t => { t with errors := t.errors ++ text }
  colored := site.colored

/-- What is recorded once a report is delivered. -/
def Traces.withReport (t : Traces) (o : Options) (report : String) : Traces :=
  match o.output? with
  | some path => { t with saved := t.saved ++ [(path, report)] }
  | none => { t with printed := t.printed ++ if report.endsWith "\n" then report else report ++ "\n" }

theorem Traces.errors_withReport (t : Traces) (o : Options) (report : String) :
    (t.withReport o report).errors = t.errors := by
  unfold withReport
  cases o.output? <;> rfl

theorem Traces.withReport_errors (e e' : String) (o : Options) (report : String) :
    ({ errors := e } : Traces).withReport o report =
      { ({ errors := e' } : Traces).withReport o report with errors := e } := by
  unfold withReport
  cases o.output? <;> rfl

theorem run_bind_eq {α β : Type} {x : StateM Traces α} {f : α → StateM Traces β} {a : α} {t t' : Traces}
    (h : x.run t = (a, t')) : (x >>= f).run t = (f a).run t' := by
  show (f (x.run t).1).run (x.run t).2 = _
  rw [h]

variable {site : Site} {cv : Conversion} {o : Options} {inputs : List Input}

theorem deliver_run {report : String} (h : ∀ path, o.output? = some path → site.save path report = .ok ())
    (t : Traces) : (deliver site.surroundings o report).run t = (.ok (), t.withReport o report) := by
  unfold deliver Traces.withReport
  cases ho : o.output? with
  | none => rfl
  | some path =>
    have hsave : (site.surroundings.save path report).run t =
        (.ok (), { t with saved := t.saved ++ [(path, report)] }) := by
      simp only [Site.surroundings, h path ho]
      rfl
    exact run_bind_eq hsave

/-! ## Loading -/

theorem file_eq_of_loadFiles {paths : List String} {t t' : Traces}
    (h : (loadFiles site.surroundings paths).run t = (.ok inputs, t')) :
    ∀ i ∈ inputs, site.file i.name = .ok i.content := by
  induction paths generalizing inputs t with
  | nil =>
    cases h
    exact List.forall_mem_nil _
  | cons path rest ih =>
    have hload : (site.surroundings.load path).run t = (site.file path, t) := rfl
    rw [loadFiles, run_bind_eq hload] at h
    cases hfile : site.file path with
    | error reason =>
      rw [hfile] at h
      cases h
    | ok content =>
      rw [hfile] at h
      obtain ⟨loaded, t'', hrest⟩ : ∃ loaded t'', (loadFiles site.surroundings rest).run t = (loaded, t'') :=
        ⟨_, _, rfl⟩
      have hmap := (run_bind_eq hrest).symm.trans h
      cases loaded with
      | error reason => cases hmap
      | ok loaded =>
        cases hmap
        exact List.forall_mem_cons.2 ⟨hfile, ih hrest⟩

theorem loadFiles_run (h : ∀ i ∈ inputs, site.file i.name = .ok i.content) (t : Traces) :
    (loadFiles site.surroundings (inputs.map Input.name)).run t = (.ok inputs, t) := by
  induction inputs with
  | nil => rfl
  | cons i rest ih =>
    rw [List.forall_mem_cons] at h
    have hload : (site.surroundings.load i.name).run t = (.ok i.content, t) := by
      rw [← h.1]
      rfl
    rw [List.map_cons, loadFiles, run_bind_eq hload]
    exact run_bind_eq (ih h.2)

/-! ## Converting -/

/-- An input as it is converted, none where it does not convert. -/
def Input.converted? (cv : Conversion) (format : InputFormat) (i : Input) : Option ConvertedInput :=
  match convertContent cv format i.content with
  | .ok document => some ⟨i.name, document⟩
  | .error _ => none

/-- The line that tells why an input does not convert. -/
def Input.failureLine? (cv : Conversion) (format : InputFormat) (i : Input) : Option String :=
  match convertContent cv format i.content with
  | .ok _ => none
  | .error e => some ("sqlbridge: error: " ++ i.name ++ ": " ++ e.message ++ "\n")

def Input.converts (cv : Conversion) (format : InputFormat) (i : Input) : Bool :=
  (i.converted? cv format).isSome

/-- The inputs that convert, as they are converted, in order. -/
def convertedInputs (cv : Conversion) (format : InputFormat) (inputs : List Input) : List ConvertedInput :=
  inputs.filterMap (·.converted? cv format)

/-- A line for every input that does not convert, in order. -/
def failureLines (cv : Conversion) (format : InputFormat) (inputs : List Input) : List String :=
  inputs.filterMap (·.failureLine? cv format)

theorem errorLine_eq (name reason : String) : errorLine (name ++ ": " ++ reason) =
    "sqlbridge: error: " ++ name ++ ": " ++ reason ++ "\n" := by
  unfold errorLine
  simp only [String.append_assoc]

/-- One step of a batch: the input is put behind the converted ones, or a line tells why it is not. -/
theorem convertNext_run (format : InputFormat) (p : Progress) (i : Input) (t : Traces) :
    (convertNext site.surroundings cv format p i).run t =
      (⟨p.converted ++ convertedInputs cv format [i], p.failed || !i.converts cv format⟩,
        { t with errors := t.errors ++ String.join (failureLines cv format [i]) }) := by
  unfold convertNext convertedInputs failureLines Input.converts Input.converted? Input.failureLine?
  cases hcontent : convertContent cv format i.content with
  | ok document =>
    show (Progress.mk (p.converted ++ [⟨i.name, document⟩]) p.failed, t) = _
    simp [hcontent]
  | error e =>
    show (Progress.mk p.converted true,
      { t with errors := t.errors ++ errorLine (i.name ++ ": " ++ e.message) }) = _
    simp [hcontent, errorLine_eq]

theorem foldlM_convertNext_run (format : InputFormat) (p : Progress) (t : Traces) :
    (inputs.foldlM (convertNext site.surroundings cv format) p).run t =
      (⟨p.converted ++ convertedInputs cv format inputs, p.failed || !inputs.all (·.converts cv format)⟩,
        { t with errors := t.errors ++ String.join (failureLines cv format inputs) }) := by
  induction inputs generalizing p t with
  | nil =>
    show (p, t) = _
    simp [convertedInputs, failureLines]
  | cons i rest ih =>
    rw [List.foldlM_cons, run_bind_eq (convertNext_run format p i t), ih]
    have hconverted : convertedInputs cv format (i :: rest) =
        convertedInputs cv format [i] ++ convertedInputs cv format rest :=
      (List.filterMap_append : ([i] ++ rest).filterMap _ = _)
    have hlines : failureLines cv format (i :: rest) =
        failureLines cv format [i] ++ failureLines cv format rest :=
      (List.filterMap_append : ([i] ++ rest).filterMap _ = _)
    rw [hconverted, hlines, String.join_append, List.all_cons, Bool.not_and, Bool.or_assoc,
      List.append_assoc, String.append_assoc]

/-! ## Messages -/

/-- The word for a severity on a terminal, coloured or plain. -/
def severityWord : Bool → Severity → String
  | false, .error => "ERROR"
  | false, .warning => "WARN"
  | false, .info => "INFO"
  | true, .error => "\x1b[31mERROR\x1b[39m"
  | true, .warning => "\x1b[33mWARN\x1b[39m"
  | true, .info => "\x1b[34mINFO\x1b[39m"

/-- A code on a terminal, dimmed or plain. -/
def codeWord : Bool → String → String
  | false, code => code
  | true, code => "\x1b[2m" ++ code ++ "\x1b[0m"

/-- The line about one finding on the input of a name. -/
def printedFinding (colored : Bool) (name : String) (d : Diagnostic) : String :=
  name ++ ": [" ++ severityWord colored d.severity ++ "] " ++ codeWord colored d.code ++ ": " ++ d.message ++ "\n"

/-- A line for every finding, input by input. -/
def printedFindings (colored : Bool) (converted : List ConvertedInput) : List String :=
  converted.flatMap fun i => i.document.diagnostics.map (printedFinding colored i.name)

theorem styled_eq (start finish text : String) : Report.styled start finish text =
    ("\x1b[" ++ start ++ "m") ++ text ++ ("\x1b[" ++ finish ++ "m") := by
  simp only [Report.styled, String.append_assoc]

theorem codeWord_true (code : String) : Report.styled "2" "0" code = codeWord true code := styled_eq "2" "0" code

theorem findingLine_eq_printedFinding (colored : Bool) (name : String) (d : Diagnostic) :
    Report.findingLine colored name d = printedFinding colored name d := by
  obtain ⟨severity, code, message, kind?⟩ := d
  cases colored with
  | false => cases severity <;> rfl
  | true =>
    rw [Report.findingLine, printedFinding, if_pos rfl, if_pos rfl, codeWord_true]
    cases severity <;> rfl

theorem findings_eq_printedFindings (colored : Bool) (converted : List ConvertedInput) :
    Report.findings colored converted = String.join (printedFindings colored converted) := by
  unfold Report.findings printedFindings
  have hline (name : String) : Report.findingLine colored name = printedFinding colored name :=
    funext (findingLine_eq_printedFinding colored name)
  simp only [hline]

/-- The messages of a batch: a line for every input that does not convert, then, unless they are not wanted,
a line for every finding on the others. -/
def messageLines (site : Site) (cv : Conversion) (o : Options) (inputs : List Input) : List String :=
  failureLines cv o.input inputs ++
    if o.quiet then [] else printedFindings site.colored (convertedInputs cv o.input inputs)

/-! ## Whole batches -/

/-- What a batch leaves: its messages and, where some input converts, the report on those that do. -/
def tracesOfBatch (site : Site) (cv : Conversion) (o : Options) (inputs : List Input) : Traces :=
  if (convertedInputs cv o.input inputs).isEmpty then { errors := String.join (messageLines site cv o inputs) }
  else ({ errors := String.join (messageLines site cv o inputs) } : Traces).withReport o
    (o.report (convertedInputs cv o.input inputs))

theorem errors_tracesOfBatch :
    (tracesOfBatch site cv o inputs).errors = String.join (messageLines site cv o inputs) := by
  unfold tracesOfBatch
  split
  · rfl
  · exact Traces.errors_withReport _ _ _

theorem printFindings_run (converted : List ConvertedInput) (t : Traces) :
    (printFindings site.surroundings o converted).run t = ((),
      { t with
        errors := t.errors ++ String.join (if o.quiet then [] else printedFindings site.colored converted) }) := by
  unfold printFindings
  rw [findings_eq_printedFindings]
  cases o.quiet with
  | true =>
    show ((), t) = _
    simp
  | false => rfl

theorem deliverReport_run {converted : List ConvertedInput}
    (hsave : ∀ path, o.output? = some path → site.save path (o.report converted) = .ok ()) (t : Traces) :
    (deliverReport site.surroundings o converted).run t =
      (.ok (), if converted.isEmpty then t else t.withReport o (o.report converted)) := by
  unfold deliverReport
  cases converted.isEmpty with
  | true => rfl
  | false => exact deliver_run hsave t

theorem runBatch_run (hsave : ∀ path, o.output? = some path →
      site.save path (o.report (convertedInputs cv o.input inputs)) = .ok ()) :
    (runBatch site.surroundings cv o inputs).run {} =
      (.ok (!inputs.all (·.converts cv o.input)), tracesOfBatch site cv o inputs) := by
  have hconvert : (inputs.foldlM (convertNext site.surroundings cv o.input) {}).run {} =
      (⟨convertedInputs cv o.input inputs, !inputs.all (·.converts cv o.input)⟩,
        { errors := String.join (failureLines cv o.input inputs) }) := by
    have hsteps : (inputs.foldlM (convertNext site.surroundings cv o.input) {}).run {} = _ :=
      foldlM_convertNext_run _ _ _
    simpa using hsteps
  have hfindings : (printFindings site.surroundings o (convertedInputs cv o.input inputs)).run
      { errors := String.join (failureLines cv o.input inputs) } =
        ((), { errors := String.join (messageLines site cv o inputs) }) := by
    rw [printFindings_run, messageLines, String.join_append]
  exact (run_bind_eq hconvert).trans
    ((run_bind_eq hfindings).trans (run_bind_eq (deliverReport_run hsave _)))

theorem runWith_run (hsetup : (setUp site.surroundings o).run {} = (.ok cv, {}))
    (hinputs : (loadInputs site.surroundings o).run {} = (.ok inputs, {}))
    (hsave : ∀ path, o.output? = some path →
      site.save path (o.report (convertedInputs cv o.input inputs)) = .ok ()) :
    (runWith site.surroundings o).run {} =
      (if inputs.all (·.converts cv o.input) then .success else .failure, tracesOfBatch site cv o inputs) := by
  rw [runWith, run_bind_eq hsetup]
  refine (run_bind_eq hinputs).trans ((run_bind_eq (runBatch_run hsave)).trans ?_)
  cases inputs.all (·.converts cv o.input) <;> rfl

/-! ## Inputs that convert -/

/-- The options with only the given ones for the files. Standard input, where there were none, stays. -/
def Options.restrictedTo (o : Options) (inputs : List Input) : Options :=
  { o with files := if o.files.isEmpty then [] else inputs.map Input.name }

theorem convertedInputs_filter (format : InputFormat) :
    convertedInputs cv format (inputs.filter (·.converts cv format)) = convertedInputs cv format inputs := by
  unfold convertedInputs Input.converts
  rw [List.filterMap_filter]
  congr 1
  funext i
  cases i.converted? cv format <;> rfl

theorem length_convertedInputs (format : InputFormat) :
    (convertedInputs cv format inputs).length = (inputs.filter (·.converts cv format)).length := by
  rw [convertedInputs, List.length_filterMap_eq_countP, List.countP_eq_length_filter]
  rfl

/-- Some of the inputs of a run can be given to a run of their own. -/
theorem loadInputs_restrictedTo {t : Traces}
    (h : (loadInputs site.surroundings o).run t = (.ok inputs, t)) {chosen : List Input}
    (hchosen : chosen.Sublist inputs) (hne : chosen ≠ []) :
    (loadInputs site.surroundings (o.restrictedTo chosen)).run t = (.ok chosen, t) := by
  unfold loadInputs Options.restrictedTo at *
  cases hfiles : o.files.isEmpty with
  | true =>
    rw [if_pos hfiles] at h
    have hinput : (site.surroundings.input).run t = (site.input, t) := rfl
    rw [run_bind_eq hinput] at h
    cases hcontent : site.input with
    | error reason =>
      rw [hcontent] at h
      cases h
    | ok content =>
      rw [hcontent] at h
      cases h
      obtain rfl := hchosen.eq_of_length_le (List.length_pos_iff.2 hne)
      refine (run_bind_eq hinput).trans ?_
      rw [hcontent]
      rfl
  | false =>
    rw [if_neg (by simp [hfiles])] at h
    have hfile : ∀ i ∈ chosen, site.file i.name = .ok i.content := fun i hi =>
      file_eq_of_loadFiles h i (hchosen.subset hi)
    simpa [hne] using loadFiles_run hfile t

/-- Sections with or without headings, with a blank line between neighbours. -/
def headedSections (headed : Bool) (heading : String) (text : ConvertedInput → String)
    (converted : List ConvertedInput) : String :=
  Text.joined "\n" (converted.map fun i =>
    (if headed then heading ++ i.name ++ "\n" else "") ++ text i ++ "\n")

/-- A report in the format asked for, with headings or without in the formats that have sections. -/
def Options.layout (o : Options) (headed : Bool) (converted : List ConvertedInput) : String :=
  match o.format with
  | .sql => headedSections headed "-- " (fun i => i.document.root.render) converted
  | .tree => headedSections headed "# " (fun i => i.document.root.outline) converted
  | .json => Report.json o.compact converted

theorem report_eq_layout (converted : List ConvertedInput) :
    o.report converted = o.layout (1 < converted.length) converted := by
  have hsections : ∀ heading text, Report.sections heading text converted =
      headedSections (1 < converted.length) heading text converted := by
    intro heading text
    unfold Report.sections headedSections
    by_cases hmany : 1 < converted.length <;> simp [hmany]
  unfold Options.report Options.layout
  cases o.format with
  | sql => exact hsections _ _
  | tree => exact hsections _ _
  | json => rfl

/-- What a run over inputs of which some may not convert comes to. -/
structure BatchRun (site : Site) (cv : Conversion) (o : Options) (inputs : List Input) (code : ExitCode)
    (t : Traces) : Prop where
  /-- It succeeds exactly when all inputs convert. -/
  code_eq : code.number = if ∀ i ∈ inputs, i.converts cv o.input then 0 else 1
  /-- Its messages are a line for every input that does not convert and then, unless they are not wanted, a
  line for every finding on the others. -/
  errors_eq : t.errors = String.join (failureLines cv o.input inputs ++
    if o.quiet then [] else printedFindings site.colored (convertedInputs cv o.input inputs))
  /-- Where no input converts, nothing is written. -/
  nothing_written : (∀ i ∈ inputs, i.converts cv o.input = false) → t.printed = "" ∧ t.saved = []
  /-- Otherwise the report on those that convert is, with headings when there are several of them. -/
  report_written : (∃ i ∈ inputs, i.converts cv o.input) → t = ({ errors := t.errors } : Traces).withReport o
    (o.layout (1 < (inputs.filter (·.converts cv o.input)).length) (convertedInputs cv o.input inputs))
  /-- A run with only the inputs that convert writes the same. -/
  same_written : (∃ i ∈ inputs, i.converts cv o.input) → ∃ code' t',
    (runWith site.surroundings (o.restrictedTo (inputs.filter (·.converts cv o.input)))).run {} =
      (code', t') ∧ t.printed = t'.printed ∧ t.saved = t'.saved

theorem convertedInputs_isEmpty_iff (format : InputFormat) :
    (convertedInputs cv format inputs).isEmpty ↔ ∀ i ∈ inputs, i.converts cv format = false := by
  rw [List.isEmpty_iff, convertedInputs, List.filterMap_eq_nil_iff]
  simp only [Input.converts, Option.isSome_eq_false_iff, Option.isNone_iff_eq_none]

theorem tracesOfBatch_eq_withReport (hsome : ∃ i ∈ inputs, i.converts cv o.input) :
    tracesOfBatch site cv o inputs = ({ errors := String.join (messageLines site cv o inputs) } : Traces).withReport o
      (o.report (convertedInputs cv o.input inputs)) := by
  obtain ⟨i, hi, hconverts⟩ := hsome
  refine if_neg fun hempty => ?_
  rw [(convertedInputs_isEmpty_iff o.input).1 hempty i hi] at hconverts
  cases hconverts

theorem runWith_restrictedTo (hsetup : (setUp site.surroundings o).run {} = (.ok cv, {}))
    (hinputs : (loadInputs site.surroundings o).run {} = (.ok inputs, {}))
    (hsave : ∀ path, o.output? = some path →
      site.save path (o.report (convertedInputs cv o.input inputs)) = .ok ())
    (hsome : ∃ i ∈ inputs, i.converts cv o.input) : ∃ code t,
      (runWith site.surroundings (o.restrictedTo (inputs.filter (·.converts cv o.input)))).run {} = (code, t) ∧
        (tracesOfBatch site cv o inputs).printed = t.printed ∧
        (tracesOfBatch site cv o inputs).saved = t.saved := by
  let converting := inputs.filter (·.converts cv o.input)
  have hsome' : ∃ i ∈ converting, i.converts cv o.input := by
    obtain ⟨i, hi, hconverts⟩ := hsome
    exact ⟨i, List.mem_filter.2 ⟨hi, hconverts⟩, hconverts⟩
  have hne : converting ≠ [] := by
    obtain ⟨i, hi, _⟩ := hsome'
    exact List.ne_nil_of_mem hi
  have hloaded := loadInputs_restrictedTo hinputs List.filter_sublist hne
  have hconverted : convertedInputs cv o.input converting = convertedInputs cv o.input inputs :=
    convertedInputs_filter o.input
  refine ⟨_, _, runWith_run (o := o.restrictedTo converting) hsetup hloaded (hconverted.symm ▸ hsave), ?_⟩
  have htraces : tracesOfBatch site cv (o.restrictedTo converting) converting =
      ({ errors := String.join (messageLines site cv (o.restrictedTo converting) converting) } : Traces).withReport
        o (o.report (convertedInputs cv o.input converting)) := tracesOfBatch_eq_withReport hsome'
  rw [htraces, hconverted, tracesOfBatch_eq_withReport hsome, Traces.withReport_errors]
  exact ⟨rfl, rfl⟩

/-- Inputs that do not convert cost a run its success and leave their lines among the messages; apart from
this it is the run with only the inputs that convert. -/
theorem runWith_batchRun (hsetup : (setUp site.surroundings o).run {} = (.ok cv, {}))
    (hinputs : (loadInputs site.surroundings o).run {} = (.ok inputs, {}))
    (hsave : ∀ path, o.output? = some path →
      site.save path (o.report (convertedInputs cv o.input inputs)) = .ok ()) :
    ∃ code t, (runWith site.surroundings o).run {} = (code, t) ∧ BatchRun site cv o inputs code t := by
  refine ⟨_, _, runWith_run hsetup hinputs hsave, ?_⟩
  exact {
    code_eq := by
      simp only [List.all_eq_true]
      split <;> rfl
    errors_eq := errors_tracesOfBatch
    nothing_written := fun hnone => by
      rw [tracesOfBatch, if_pos ((convertedInputs_isEmpty_iff o.input).2 hnone)]
      exact ⟨rfl, rfl⟩
    report_written := fun hsome => by
      rw [errors_tracesOfBatch, tracesOfBatch_eq_withReport hsome, report_eq_layout, length_convertedInputs]
    same_written := runWith_restrictedTo hsetup hinputs hsave }

/-- A batch of three files, written to a file. The first one is kept as text, the second one is refused. -/
theorem runWith_batchRun_three_files :
    let site : Site := ⟨fun path => .ok (if path = "a.sql" then "SELECT a FROM t GROUP BY a" else
      if path = "b.sql" then "SELECT" else "SELECT 1"), .ok "", fun _ _ => .ok (), false⟩
    let o : Options := { files := ["a.sql", "b.sql", "c.sql"], output? := some "out.sql" }
    let cv := Conversion.standard {}
    let inputs : List Input :=
      [⟨"a.sql", "SELECT a FROM t GROUP BY a"⟩, ⟨"b.sql", "SELECT"⟩, ⟨"c.sql", "SELECT 1"⟩]
    (setUp site.surroundings o).run {} = (.ok cv, {}) ∧
      (loadInputs site.surroundings o).run {} = (.ok inputs, {}) ∧
      (∀ path, o.output? = some path →
        site.save path (o.report (convertedInputs cv o.input inputs)) = .ok ()) ∧
      ∃ code t, (runWith site.surroundings o).run {} = (code, t) ∧ BatchRun site cv o inputs code t ∧
        code.number = 1 ∧
        t.errors =
          "sqlbridge: error: b.sql: Parse error: sql parser error: Expected: an expression, found: EOF\n" ++
          "a.sql: [INFO] RAW_STATEMENT: statement copied as text without conversion\n" ∧
        t.saved = [("out.sql", "-- a.sql\nSELECT a FROM t GROUP BY a\n\n-- c.sql\nSELECT 1\n")] := by
  intro site o cv inputs
  have hsetup : (setUp site.surroundings o).run {} = (.ok cv, {}) := rfl
  have hinputs : (loadInputs site.surroundings o).run {} = (.ok inputs, {}) := rfl
  have hsave : ∀ path, o.output? = some path →
      site.save path (o.report (convertedInputs cv o.input inputs)) = .ok () := fun _ _ => rfl
  obtain ⟨code, t, hrun, hbatch⟩ := runWith_batchRun hsetup hinputs hsave
  refine ⟨hsetup, hinputs, hsave, code, t, hrun, hbatch, ?_, ?_, ?_⟩
  · rw [hbatch.code_eq]
    decide +kernel
  · rw [hbatch.errors_eq]
    decide +kernel
  · have hsome : ∃ i ∈ inputs, i.converts cv o.input := by decide +kernel
    have hlayout : o.layout (1 < (inputs.filter (·.converts cv o.input)).length)
        (convertedInputs cv o.input inputs) = "-- a.sql\nSELECT a FROM t GROUP BY a\n\n-- c.sql\nSELECT 1\n" := by decide +kernel
    rw [hbatch.report_written hsome, hlayout]
    rfl

end DialectConversion.Cli
