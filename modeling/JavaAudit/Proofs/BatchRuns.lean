import Mathlib.Data.List.Forall2
import Mathlib.Data.String.Basic
import JavaAudit.Command.Run
import JavaAudit.Proofs.Refusals

/-! Runs on several files.

How the analysis of a file ends is a matter of that file and the settings. Main statement: a run
collects these ends and nothing else, so the files around a file change nothing about it, whether
they are missing, no text, no program or fine. A name that is too long for any file is not reported
as missing: it stops the run, and the results of all files are lost. -/

set_option autoImplicit false

namespace JavaAudit

def Block.isLine : Block → Bool
  | .line _ => true
  | .panel _ | .table .. => false

/-- Lines are for errors: a report is shown as panels and tables. -/
theorem Block.isLine_of_mem_ofReport {report : Report Float} {block : Block}
    {escape : String → String} (member : block ∈ ofReport escape report) : block.isLine = false := by
  have inFindings : ∀ {κ : Type} {title : String} {name : κ → String} {list : List (Finding κ)},
      block ∈ findings escape title name list → block.isLine = false := by
    intro κ title name list member
    rw [findings] at member
    split at member
    · cases member
    · rw [List.mem_singleton.mp member, isLine]
  have inRows : ∀ {title : String} {columns : List String} {list : List (List String)},
      block ∈ rows title columns list → block.isLine = false := by
    intro title columns list member
    rw [rows] at member
    split at member
    · cases member
    · rw [List.mem_singleton.mp member, isLine]
  simp only [ofReport, List.mem_append, List.mem_cons] at member
  obtain ((((rfl | isFinding) | isFinding) | isRow) | isRow) := member
  · rfl
  · exact inFindings isFinding
  · exact inFindings isFinding
  · exact inRows isRow
  · exact inRows isRow

namespace Path

section
open String

theorem splitOnAux_of_no_slash {rest : List Char} (plain : '/' ∉ rest) (passed : List Char) :
    (ofList (passed ++ rest)).splitOnAux "/" 0 ⟨utf8Len passed⟩ 0 [] =
      [ofList (passed ++ rest)] := by
  -- The position stands behind `passed`, and the piece begins at the front of the text.
  induction rest generalizing passed with
  | nil =>
    have atEnd : Pos.Raw.atEnd (ofList (passed ++ [])) ⟨utf8Len passed⟩ = true := by simp
    have whole := extract_of_valid [] passed []
    rw [splitOnAux, if_pos atEnd]
    simpa using whole
  | cons c rest ih =>
    obtain ⟨notSlash, others⟩ : '/' ≠ c ∧ '/' ∉ rest := by simpa using plain
    have inside : ¬Pos.Raw.atEnd (ofList (passed ++ c :: rest)) ⟨utf8Len passed⟩ = true := by
      have positive := Char.utf8Size_pos c
      rw [atEnd_iff, rawEndPos_ofList, Pos.Raw.mk_le_mk, utf8Len_append, utf8Len_cons]
      omega
    have differs : ¬(Pos.Raw.get (ofList (passed ++ c :: rest)) ⟨utf8Len passed⟩ ==
        Pos.Raw.get "/" 0) = true := by
      rw [get_of_valid, beq_iff_eq]
      exact Ne.symm notSlash
    have next : Pos.Raw.next (ofList (passed ++ c :: rest))
        ((⟨utf8Len passed⟩ : Pos.Raw).unoffsetBy 0) = ⟨utf8Len (passed ++ [c])⟩ := by
      rw [utf8Len_append]
      exact (next_of_valid passed c rest).trans (by simp)
    have step := ih others (passed ++ [c])
    rw [List.append_assoc, List.singleton_append] at step
    rw [splitOnAux, if_neg inside, if_neg differs, next]
    exact step

end

/-- A name that holds no slash and does not stand for a directory. -/
structure IsPlain (name : String) : Prop where
  noSlash : '/' ∉ name.toList
  nonempty : name ≠ ""
  notHere : name ≠ "."

theorem IsPlain.components_eq {name : String} (plain : IsPlain name) :
    components name = [name] := by
  have split := splitOnAux_of_no_slash plain.noSlash []
  rw [List.nil_append, String.ofList_toList] at split
  have pieces : name.splitOn "/" = [name] := by
    rw [String.splitOn, if_neg (by decide)]
    exact split
  simp [components, pieces, plain.nonempty, plain.notHere]

theorem IsPlain.root_eq {name : String} (plain : IsPlain name) : root name = "" := by
  have noSlash := plain.noSlash
  rw [root]
  split <;> simp_all

theorem IsPlain.normalize_eq {name : String} (plain : IsPlain name) : normalize name = name := by
  simp [normalize, plain.components_eq, plain.root_eq, plain.nonempty]

theorem isPlain_of_long {name : String} (noSlash : '/' ∉ name.toList)
    (long : nameLimit < name.utf8ByteSize) : IsPlain name := by
  refine ⟨noSlash, ?_, ?_⟩ <;> rintro rfl <;> exact absurd long (by decide)

end Path

theorem Workspace.find_of_long {name : String} (noSlash : '/' ∉ name.toList)
    (long : Path.nameLimit < name.utf8ByteSize) (workspace : Workspace) :
    workspace.find name = .overlong := by
  have plain := Path.isPlain_of_long noSlash long
  have notAbove : name ≠ ".." := by
    rintro rfl
    exact absurd long (by decide)
  rw [find, plain.components_eq, plain.root_eq]
  split
  · rfl
  · simp [follow, notAbove, long]

namespace Command

inductive Ends (environment : Environment) (settings : Settings Float) (name : String) :
    Except String (Report Float) → Prop where
  | missing (absent : environment.find (Path.normalize name) = .absent) :
      Ends environment settings name (.error ("File does not exist: " ++ Path.normalize name))
  | undecodable {bytes : ByteArray}
      (found : environment.find (Path.normalize name) = .file bytes)
      (garbled : Text.decode? bytes = none) :
      Ends environment settings name
        (.error ("Not a UTF-8 source file: " ++ Path.normalize name))
  | refused {bytes : ByteArray} {text : String} {error : AnalysisError}
      (found : environment.find (Path.normalize name) = .file bytes)
      (decoded : Text.decode? bytes = some text)
      (refusal : Analysis.Refusal (Path.normalize name)
        (environment.parse (Path.normalize name) text) error) :
      Ends environment settings name (.error error.message)
  | analysed {bytes : ByteArray} {text : String} {report : Report Float}
      (found : environment.find (Path.normalize name) = .file bytes)
      (decoded : Text.decode? bytes = some text)
      (reported : (Analysis.analyze settings (Path.normalize name)
        (environment.parse (Path.normalize name) text)).result = .ok report) :
      Ends environment settings name (.ok report)

section
variable {environment : Environment} {settings : Settings Float} {name : String}

theorem ends_iff {result : Except String (Report Float)} :
    Ends environment settings name result ↔
      ∃ file, analyzeFile environment settings name = .ok file ∧ file.result = result := by
  constructor
  · intro ends
    cases ends with
    | missing absent => simp [analyzeFile, absent, FileResult.failure]
    | undecodable found garbled => simp [analyzeFile, found, garbled, FileResult.failure]
    | refused found decoded refusal =>
      have failed := (Analysis.analyze_error_iff settings _ _ _).mpr refusal
      simp [analyzeFile, found, decoded, analyzeText_result, failed, Except.mapError]
    | analysed found decoded reported =>
      simp [analyzeFile, found, decoded, analyzeText_result, reported, Except.mapError]
  · rintro ⟨file, analysed, rfl⟩
    rw [analyzeFile] at analysed
    split at analysed
    · next absent =>
      cases analysed
      exact .missing absent
    · cases analysed
    · cases analysed
    · next bytes found =>
      -- Past the decoding, the analysis decides between a refusal and a report.
      split at analysed
      · next garbled =>
        cases analysed
        exact .undecodable found garbled
      · next text decoded =>
        cases analysed
        rw [analyzeText_result]
        cases result : (Analysis.analyze settings (Path.normalize name)
            (environment.parse (Path.normalize name) text)).result with
        | error error =>
          exact .refused found decoded ((Analysis.analyze_error_iff settings _ _ _).mp result)
        | ok report => exact .analysed found decoded result

/-- Only what is no file and not missing stops the analysis. -/
theorem exists_analyzeFile_iff :
    (∃ file, analyzeFile environment settings name = .ok file) ↔
      environment.find (Path.normalize name) ≠ .directory ∧
      environment.find (Path.normalize name) ≠ .overlong := by
  rw [analyzeFile]
  cases environment.find (Path.normalize name) with
  | absent => simp
  | directory => simp
  | overlong => simp
  | file bytes => cases decoded : Text.decode? bytes <;> simp [decoded]

theorem ends_iff_eq {file : FileResult}
    (analysed : analyzeFile environment settings name = .ok file)
    (result : Except String (Report Float)) :
    Ends environment settings name result ↔ result = file.result := by
  rw [ends_iff, analysed]
  constructor
  · rintro ⟨_, ⟨⟩, rfl⟩
    rfl
  · rintro rfl
    exact ⟨file, rfl, rfl⟩

end

def reports (results : List (Except String (Report Float))) : List (Report Float) :=
  results.filterMap Except.toOption

def errorLines (escape : String → String) (results : List (Except String (Report Float))) :
    List Block :=
  results.filterMap fun
    | .error message => some (.error (escape message))
    | .ok _ => none

theorem errorLines_eq_nil_iff (escape : String → String)
    {results : List (Except String (Report Float))} :
    errorLines escape results = [] ↔ ∀ message, .error message ∉ results := by
  rw [errorLines, List.filterMap_eq_nil_iff]
  constructor
  · intro silent message member
    cases silent _ member
  · intro fine result member
    cases result with
    | error message => exact absurd member (fine message)
    | ok report => rfl

/-- What a run shows of the results of its files. -/
structure Shows (escape : String → String) (json : Bool)
    (results : List (Except String (Report Float))) (output : Output) : Prop where
  document : output.document =
    if json then some (.list ((reports results).map (·.document))) else none
  console : output.console =
    errorLines escape results ++
      if json then [] else (reports results).flatMap (Block.ofReport escape)
  /-- No line but those of the failures. -/
  lines : output.console.filter Block.isLine = errorLines escape results
  failed : output.exitCode = 1 ↔ ∃ message, .error message ∈ results
  succeeded : output.exitCode = 0 ↔ ∀ message, .error message ∉ results

theorem isLine_of_mem_errorLines {escape : String → String}
    {results : List (Except String (Report Float))} {block : Block}
    (member : block ∈ errorLines escape results) : block.isLine = true := by
  obtain ⟨result, _, shown⟩ := List.mem_filterMap.mp member
  cases result with
  | error message => cases shown; rfl
  | ok report => cases shown

theorem present_shows (escape : String → String) (arguments : Arguments)
    (loaded : Settings.Loaded) (files : List FileResult) :
    Shows escape arguments.json (files.map (·.result)) (present escape arguments loaded files) := by
  have sameErrors : files.filterMap (·.errorBlock? escape) =
      errorLines escape (files.map (·.result)) := by
    rw [errorLines, List.filterMap_map]
    rfl
  have sameReports : files.filterMap (·.report?) = reports (files.map (·.result)) :=
    List.filterMap_map.symm
  have exitCode : (present escape arguments loaded files).exitCode =
      if (errorLines escape (files.map (·.result))).isEmpty then 0 else 1 := by
    rw [present, sameErrors]
  have console : (present escape arguments loaded files).console =
      errorLines escape (files.map (·.result)) ++
        if arguments.json then []
        else (reports (files.map (·.result))).flatMap (Block.ofReport escape) := by
    rw [present, sameErrors, sameReports]
  -- From here on only the results matter, not the events beside them.
  generalize files.map (·.result) = results at *
  refine ⟨by rw [present, sameReports], console, ?_, ?_, ?_⟩
  · have allLines : (errorLines escape results).filter Block.isLine = errorLines escape results :=
      List.filter_eq_self.mpr fun block => isLine_of_mem_errorLines
    have noLines : ((reports results).flatMap (Block.ofReport escape)).filter Block.isLine = [] := by
      rw [List.filter_eq_nil_iff]
      intro block member
      obtain ⟨report, _, member⟩ := List.mem_flatMap.mp member
      simp [Block.isLine_of_mem_ofReport member]
    rw [console, List.filter_append, allLines]
    split <;> simp [noLines]
  · rw [exitCode, ← not_iff_not, not_exists, ← errorLines_eq_nil_iff escape, ← List.isEmpty_iff]
    split <;> simp_all
  · rw [exitCode, ← errorLines_eq_nil_iff escape, ← List.isEmpty_iff]
    split <;> simp_all

theorem mapM_eq_ok_iff {α β ε : Type} {step : α → Except ε β} {items : List α}
    {values : List β} : items.mapM step = .ok values ↔
      List.Forall₂ (fun item value => step item = .ok value) items values := by
  induction items generalizing values with
  | nil => cases values <;> simp [pure, Except.pure]
  | cons item rest ih =>
    rw [List.mapM_cons, List.forall₂_cons_left_iff]
    cases first : step item with
    | error error => simp [bind, Except.bind]
    | ok value =>
      cases others : rest.mapM step with
      | error error => simp [bind, Except.bind, ← ih, others]
      | ok tail => simp [bind, Except.bind, pure, Except.pure, ← ih, others, eq_comm]

theorem exists_forall₂_iff {α β : Type} {relation : α → β → Prop} {items : List α} :
    (∃ values, List.Forall₂ relation items values) ↔
      ∀ item ∈ items, ∃ value, relation item value := by
  induction items with
  | nil => simp
  | cons item rest ih =>
    rw [List.forall_mem_cons, ← ih]
    constructor
    · rintro ⟨_, _ | ⟨first, others⟩⟩
      exact ⟨⟨_, first⟩, _, others⟩
    · rintro ⟨⟨_, first⟩, _, others⟩
      exact ⟨_, .cons first others⟩

theorem run_eq_ok_iff {environment : Environment} {arguments : Arguments}
    {loaded : Settings.Loaded} {output : Output}
    (configured : Settings.load environment.find arguments.settingsPath environment.toml =
      .ok loaded) :
    run environment arguments = .ok output ↔ ∃ files,
      List.Forall₂ (fun name file => analyzeFile environment loaded.settings name = .ok file)
        arguments.files files ∧ present environment.escape arguments loaded files = output := by
  simp only [← mapM_eq_ok_iff, run, configured, bind, Except.bind, pure, Except.pure]
  cases arguments.files.mapM (analyzeFile environment loaded.settings) <;> simp

/-- A file of a run ends in one way, as it does in a run of its own. -/
structure Apart (environment : Environment) (arguments : Arguments) (settings : Settings Float)
    (name : String) (result : Except String (Report Float)) : Prop where
  ends : ∀ other, Ends environment settings name other ↔ other = result
  alone : ∃ output, run environment { arguments with files := [name] } = .ok output ∧
    Shows environment.escape arguments.json [result] output

theorem Apart.results_eq {environment : Environment} {arguments : Arguments}
    {settings : Settings Float} {names : List String}
    {results expected : List (Except String (Report Float))}
    (apart : List.Forall₂ (Apart environment arguments settings) names results)
    (ends : List.Forall₂ (Ends environment settings) names expected) : results = expected := by
  induction apart generalizing expected with
  | nil => cases ends; rfl
  | cons first _ ih =>
    cases ends with
    | cons firstEnds others => rw [(first.ends _).mp firstEnds, ih others]

/-- Without directories among them, a run returns exactly if no name is too long, and then it shows
for each of its files, in order, what a run on that file alone shows. Recursion is taken to go as
deep as the trees do, so no file stops a run by the height of its tree. -/
theorem files_analysed_apart_iff (environment : Environment) (arguments : Arguments)
    (loaded : Settings.Loaded)
    (configured : Settings.load environment.find arguments.settingsPath environment.toml =
      .ok loaded)
    (noDirectory : ∀ name ∈ arguments.files,
      environment.find (Path.normalize name) ≠ .directory) :
    ((∃ output, run environment arguments = .ok output) ↔
      ∀ name ∈ arguments.files, environment.find (Path.normalize name) ≠ .overlong) ∧
    ∀ output, run environment arguments = .ok output → ∃ results,
      List.Forall₂ (Apart environment arguments loaded.settings) arguments.files results ∧
      Shows environment.escape arguments.json results output := by
  constructor
  · simp only [run_eq_ok_iff configured]
    rw [exists_comm]
    simp only [exists_and_left, exists_eq', and_true, exists_forall₂_iff, exists_analyzeFile_iff]
    exact forall₂_congr fun name member => and_iff_right (noDirectory name member)
  · intro output isRun
    obtain ⟨files, analysed, rfl⟩ := (run_eq_ok_iff configured).mp isRun
    refine ⟨files.map (·.result), ?_, present_shows environment.escape arguments loaded files⟩
    rw [List.forall₂_map_right_iff]
    refine analysed.imp fun name file isFile => ⟨ends_iff_eq isFile, ?_⟩
    -- The file alone is analysed by the same call, with the same settings.
    let onlyArguments : Arguments := { arguments with files := [name] }
    have configuredAlone : Settings.load environment.find onlyArguments.settingsPath
        environment.toml = .ok loaded := configured
    have runAlone : run environment onlyArguments =
        .ok (present environment.escape onlyArguments loaded [file]) :=
      (run_eq_ok_iff configuredAlone).mpr ⟨[file], .cons isFile .nil, rfl⟩
    exact ⟨_, runAlone, present_shows environment.escape onlyArguments loaded [file]⟩

def mixedFiles : Environment where
  find path :=
    if path = "Missing.java" then .absent
    else if path = "Garbled.java" then .file ⟨#[255]⟩
    else .file ByteArray.empty
  parse path _ :=
    if path = "Empty.java" then some (Node.ofAscii "" .program true none 0 0 [])
    else some overloadsByLine

theorem mixedFiles_ends {report : Report Float} (reported :
    (Analysis.analyze Settings.standard "A.java" (some overloadsByLine)).result = .ok report) :
    List.Forall₂ (Ends mixedFiles Settings.standard)
      ["Missing.java", "A.java", "Garbled.java", "Empty.java", "A.java"]
      [.error "File does not exist: Missing.java", .ok report,
        .error "Not a UTF-8 source file: Garbled.java",
        .error (AnalysisError.noType "Empty.java").message, .ok report] := by
  have missing : Path.normalize "Missing.java" = "Missing.java" :=
    Path.IsPlain.normalize_eq (by constructor <;> decide)
  have garbled : Path.normalize "Garbled.java" = "Garbled.java" :=
    Path.IsPlain.normalize_eq (by constructor <;> decide)
  have empty : Path.normalize "Empty.java" = "Empty.java" :=
    Path.IsPlain.normalize_eq (by constructor <;> decide)
  have fine : Path.normalize "A.java" = "A.java" :=
    Path.IsPlain.normalize_eq (by constructor <;> decide)
  have decoded : Text.decode? ByteArray.empty = some "" := by decide +kernel
  have reports : Ends mixedFiles Settings.standard "A.java" (.ok report) :=
    .analysed (by rw [fine]; rfl) decoded (by rw [fine]; exact reported)
  refine .cons ?_ (.cons reports (.cons ?_ (.cons ?_ (.cons reports .nil))))
  · have ends : Ends mixedFiles Settings.standard "Missing.java" _ :=
      .missing (by rw [missing]; rfl)
    simpa [missing] using ends
  · have ends : Ends mixedFiles Settings.standard "Garbled.java" _ :=
      .undecodable (by rw [garbled]; rfl) (by decide +kernel)
    simpa [garbled] using ends
  · refine .refused (by rw [empty]; rfl) decoded ?_
    rw [empty]
    exact (Analysis.analyze_error_iff Settings.standard _ _ _).mp rfl

theorem mixed_files_apart :
    ∃ (report : Report Float) (output : Output),
      run mixedFiles ⟨["Missing.java", "A.java", "Garbled.java", "Empty.java", "A.java"], none,
        true, false⟩ = .ok output ∧
      output.document = some (.list [report.document, report.document]) ∧
      output.console = [
        .error (Markup.escape "File does not exist: Missing.java"),
        .error (Markup.escape "Not a UTF-8 source file: Garbled.java"),
        .error (Markup.escape (AnalysisError.noType "Empty.java").message)] ∧
      output.exitCode = 1 := by
  obtain ⟨report, reported⟩ :=
    Analysis.exists_report Settings.standard "A.java" overloadsByLine (by decide) (by decide)
  have available : ∀ name,
      mixedFiles.find name ≠ .directory ∧ mixedFiles.find name ≠ .overlong := by
    intro name
    simp only [mixedFiles]
    split
    · simp
    · split <;> simp
  obtain ⟨returns, apart⟩ := files_analysed_apart_iff mixedFiles
    ⟨["Missing.java", "A.java", "Garbled.java", "Empty.java", "A.java"], none, true, false⟩
    (.defaults []) rfl (fun name _ => (available _).1)
  obtain ⟨output, isRun⟩ := returns.mpr fun name _ => (available _).2
  obtain ⟨results, apart, shows⟩ := apart output isRun
  obtain rfl := Apart.results_eq apart (mixedFiles_ends reported)
  exact ⟨report, output, isRun, shows.document, shows.console,
    shows.failed.mpr ⟨_, List.mem_cons_self⟩⟩

def repeatedName (count : Nat) : String :=
  String.ofList (List.replicate count 'N')

theorem slash_notMem_repeatedName (count : Nat) : '/' ∉ (repeatedName count).toList := by
  simp [repeatedName]

theorem utf8ByteSize_repeatedName (count : Nat) : (repeatedName count).utf8ByteSize = count := by
  rw [repeatedName, String.utf8ByteSize_ofList]
  induction count with
  | zero => rfl
  | succ count ih => rw [List.replicate_succ, String.utf8Len_cons, ih]; rfl

theorem analyzeFile_of_long {name : String} (noSlash : '/' ∉ name.toList)
    (long : Path.nameLimit < name.utf8ByteSize) (workspace : Workspace)
    (parse : String → String → Option Node) (settings : Settings Float) :
    analyzeFile { find := workspace.find, parse } settings name = .error (.nameTooLong name) := by
  simp only [analyzeFile, (Path.isPlain_of_long noSlash long).normalize_eq,
    Workspace.find_of_long noSlash long workspace]

def loneFile : Workspace :=
  ⟨[("A.java", ByteArray.empty)]⟩

theorem loneFile_find : loneFile.find (Path.normalize "A.java") = .file ByteArray.empty := by
  have plain : Path.IsPlain "A.java" := by constructor <;> decide
  rw [plain.normalize_eq, Workspace.find, plain.components_eq, plain.root_eq]
  simp +decide [Workspace.follow, Workspace.entry, loneFile, plain.components_eq]

/-- No file has a name of 256 bytes, but it is not reported as missing. -/
theorem long_name_stops_run :
    run { find := loneFile.find, parse := fun _ _ => some overloadsByLine }
      ⟨["A.java", repeatedName 256], none, true, false⟩ =
        .error (.nameTooLong (repeatedName 256)) := by
  let environment : Environment :=
    { find := loneFile.find, parse := fun _ _ => some overloadsByLine }
  have long : Path.nameLimit < (repeatedName 256).utf8ByteSize := by
    rw [utf8ByteSize_repeatedName]
    decide
  have stops : analyzeFile environment Settings.standard (repeatedName 256) = _ :=
    analyzeFile_of_long (slash_notMem_repeatedName 256) long _ _ _
  have present : environment.find (Path.normalize "A.java") = .file ByteArray.empty :=
    loneFile_find
  obtain ⟨file, analysed⟩ : ∃ file, analyzeFile environment Settings.standard "A.java" = .ok file :=
    exists_analyzeFile_iff.mpr (by simp [present])
  have failed : ["A.java", repeatedName 256].mapM (analyzeFile environment Settings.standard) =
      .error (.nameTooLong (repeatedName 256)) := by
    rw [List.mapM_cons, analysed, List.mapM_cons, stops]
    rfl
  calc run environment _
    _ = ["A.java", repeatedName 256].mapM (analyzeFile environment Settings.standard) >>=
          fun files => pure (Command.present _ _ (.defaults []) files) := rfl
    _ = .error (.nameTooLong (repeatedName 256)) := by rw [failed]; rfl

end Command

end JavaAudit
