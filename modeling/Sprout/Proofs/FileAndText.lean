import Sprout.Directory
import Sprout.Proofs.CommandLines
import Sprout.Proofs.Diagnostics
import Sprout.Proofs.TokenLines

set_option autoImplicit false

namespace Sprout

structure IsFileName (name : Text) : Prop where
  solid : name ≠ []
  notHere : name ≠ ['.']
  notAbove : name ≠ ['.', '.']
  noSlash : '/' ∉ name
  noNull : '\x00' ∉ name
  noHyphen : name.head? ≠ some '-'

namespace Directory

variable {name : Text} (isName : IsFileName name) (d : Directory)

include isName

theorem enter_name :
    d.enter .here name =
      if maxNameSize < name.encode.length then .error .nameTooLong
      else
        match d.lookup name with
        | some content => .ok (.file content)
        | none => .error .notFound := by
  unfold enter
  split
  next same => cases same
  next => exact absurd rfl isName.solid
  next => exact absurd rfl isName.notHere
  next => exact absurd rfl isName.notAbove
  next name _ _ _ _ _ _ =>
    congr 1
    cases d.lookup name <;> rfl

-- No slash cuts the name, so it is the whole path.
theorem read_eq_ok_iff {content : List UInt8} :
    d.read name = .ok content ↔
      d.lookup name = some content ∧ name.encode.length ≤ maxNameSize := by
  have noStart : name.head? ≠ some '/' := fun next => isName.noSlash (List.mem_of_mem_head? next)
  have whole : name.splitOn '/' = [name] := splitOn_of_not_mem isName.noSlash
  have entered := d.enter_name isName
  simp only [read, if_neg isName.solid, if_neg noStart, whole, List.foldlM_cons]
  by_cases long : maxNameSize < name.encode.length
  · rw [if_pos long] at entered
    rw [entered]
    constructor
    · intro read
      split at read <;> cases read
    · rintro ⟨-, short⟩
      omega
  · have shortPath : ¬ maxPathSize < name.encode.length := by
      have : maxNameSize < maxPathSize := by decide
      omega
    rw [if_neg long] at entered
    rw [if_neg shortPath, entered, and_iff_left (by omega)]
    cases d.lookup name with
    | none => simp [bind, Except.bind]
    | some content' => simp [bind, Except.bind, pure, Except.pure]

end Directory

def Report.inFile (file : Text) (r : Report) : Report :=
  { r with location := r.location.map fun l => { l with file } }

theorem Diagnostic.reportOn_inFile (d : Diagnostic) (lines : List Text) (file file' : Text) :
    (d.reportOn lines (some file)).toOption =
      (d.reportOn lines (some file')).toOption.map (Report.inFile file) := by
  rw [reportOn, reportOn]
  split
  next => rfl
  next => cases d.span.place? lines <;> rfl

theorem run_reports_inFile (source file file' : Text) (showTokens : Bool) :
    (run source (some file) showTokens).reports =
      (run source (some file') showTokens).reports.map (Report.inFile file) := by
  rw [run, run, Listing.reports, Listing.reports, List.map_filterMap]
  exact congrArg (List.filterMap · _) (funext fun d => d.reportOn_inFile _ file file')

namespace CommandLine

theorem Item.of_quiet {flag : Text} (isFlag : flag ∈ ["-q".toList, "--quiet".toList]) :
    Item flag [.quiet] := by
  rw [List.mem_pair] at isFlag
  rcases isFlag with rfl | rfl
  · exact @Item.cluster [.quiet] (by simp)
  · exact .word .quiet

end CommandLine

namespace Program

open CommandLine

theorem perform_file {files : Text → Except FileError (List UInt8)} {source path : Text}
    (held : files path = .ok source.encode) (stdin : List UInt8) (quiet : Bool) :
    perform ⟨some (.file path), quiet, false⟩ files stdin = scanned source path quiet := by
  have text : fileText (files path) = .ok source := by
    rw [held]
    simp [fileText, bind, Except.bind]
  simp only [perform, text]

theorem scanned_exitCode (source file : Text) (quiet : Bool) :
    (scanned source file quiet).exitCode = if (scan source).diagnostics = [] then 0 else 1 := by
  simp only [scanned, run, List.length_eq_zero_iff]

section

variable {arg : Text} {setting : Setting} {origin : Source} (item : Item arg [setting])
  (isSource : setting.source? = some origin)
  {files : Text → Except FileError (List UInt8)} {stdin : List UInt8}

include item isSource

theorem outcome_of_item :
    outcome [arg] files stdin = perform ⟨some origin, false, false⟩ files stdin := by
  have consistent : Consistent [setting] := by
    cases setting <;> cases isSource <;> constructor <;> simp [Setting.source?]
  have settings : settingsOf [setting] = ⟨some origin, false, false⟩ := by
    cases setting <;> cases isSource <;> rfl
  rw [← settings]
  exact outcome_of_spells (.item item .nil) consistent files stdin

theorem outcome_of_quiet_item {flag : Text} (isFlag : flag ∈ ["-q".toList, "--quiet".toList])
    {args : List Text} (both : args = [arg, flag] ∨ args = [flag, arg]) :
    outcome args files stdin = perform ⟨some origin, true, false⟩ files stdin := by
  have consistent : Consistent [setting, .quiet] := by
    cases setting <;> cases isSource <;> constructor <;> simp [Setting.source?]
  have settings : settingsOf [setting, .quiet] = ⟨some origin, true, false⟩ := by
    cases setting <;> cases isSource <;> rfl
  have swapped : [Setting.quiet, setting].Perm [setting, .quiet] := .swap _ _ _
  have quiet := Item.of_quiet isFlag
  rw [← settings]
  rcases both with rfl | rfl
  · exact outcome_of_spells (.item item (.item quiet .nil)) consistent files stdin
  · rw [← consistent.settings_eq swapped]
    exact outcome_of_spells (.item quiet (.item item .nil)) (consistent.of_perm swapped) files stdin

theorem plain_and_quiet {source file : Text}
    (performed : ∀ quiet, perform ⟨some origin, quiet, false⟩ files stdin =
      scanned source file quiet) :
    let plain := outcome [arg] files stdin
    plain.shown.stdout = (withoutEof (tokenize source)).flatMap Token.line ∧
    plain.exitCode = (if (scan source).diagnostics = [] then 0 else 1) ∧
    ∀ flag ∈ ["-q".toList, "--quiet".toList], ∀ args, args = [arg, flag] ∨ args = [flag, arg] →
      outcome args files stdin = ⟨plain.exitCode, { plain.shown with stdout := [] }⟩ := by
  intro plain
  have same : plain = scanned source file false := by
    rw [← performed]
    exact outcome_of_item item isSource
  rw [same]
  refine ⟨run_stdout source (some file), scanned_exitCode source file false, ?_⟩
  intro flag isFlag args both
  rw [outcome_of_quiet_item item isSource isFlag both, performed]
  rfl

end

theorem file_and_text_agree (source name : Text) (isName : IsFileName name) (stdin : List UInt8) :
    let text := "--eval=".toList ++ source
    (∀ d : Directory, d.read name = .ok source.encode ↔
      d.lookup name = some source.encode ∧ name.encode.length ≤ Directory.maxNameSize) ∧
    ∀ files : Text → Except FileError (List UInt8), files name = .ok source.encode →
      let ofFile := outcome [name] files stdin
      let ofText := outcome [text] files stdin
      ofFile.exitCode = ofText.exitCode ∧
      ofFile.shown.stdout = ofText.shown.stdout ∧
      ofFile.shown.stderr = ofText.shown.stderr ∧
      ofFile.shown.reports = ofText.shown.reports.map (Report.inFile name) ∧
      ofText.shown.reports = ofFile.shown.reports.map (Report.inFile "<eval>".toList) ∧
      ∀ arg ∈ [name, text],
        let plain := outcome [arg] files stdin
        plain.shown.stdout = (withoutEof (tokenize source)).flatMap (fun t => t.display ++ ['\n']) ∧
        plain.exitCode = (if (scan source).diagnostics = [] then 0 else 1) ∧
        ∀ flag ∈ ["-q".toList, "--quiet".toList], ∀ args, args = [arg, flag] ∨ args = [flag, arg] →
          outcome args files stdin = ⟨plain.exitCode, { plain.shown with stdout := [] }⟩ := by
  intro text
  refine ⟨fun d => d.read_eq_ok_iff isName, ?_⟩
  intro files held ofFile ofText
  have fileItem : Item name [.file name] := .file (.inr isName.noHyphen)
  have textItem : Item text [.eval source] := .evalWord source
  have fromFile : ofFile = scanned source name false := by
    rw [← perform_file held stdin]
    exact outcome_of_item fileItem rfl
  have fromText : ofText = scanned source "<eval>".toList false := outcome_of_item textItem rfl
  rw [fromFile, fromText]
  refine ⟨rfl, rfl, rfl, run_reports_inFile source name _ true,
    run_reports_inFile source _ name true, ?_⟩
  intro arg isSource
  rw [List.mem_pair] at isSource
  rcases isSource with rfl | rfl
  · exact plain_and_quiet fileItem rfl (perform_file held stdin)
  · exact plain_and_quiet textItem rfl fun _ => rfl

theorem file_and_text_agree_stray :
    let source : Text := "=@".toList
    let files := Directory.read [("a.sp".toList, source.encode)]
    let ofFile := outcome ["a.sp".toList] files []
    let ofText := outcome ["--eval==@".toList] files []
    files "a.sp".toList = .ok source.encode ∧
      ofFile.shown.stdout = ofText.shown.stdout ∧
      ofFile.shown.reports = ofText.shown.reports.map (Report.inFile "a.sp".toList) ∧
      ofText.exitCode = 1 ∧
      outcome ["-q".toList, "--eval==@".toList] files [] =
        ⟨ofText.exitCode, { ofText.shown with stdout := [] }⟩ := by
  intro source files ofFile ofText
  have isName : IsFileName "a.sp".toList := by
    constructor <;> decide
  obtain ⟨found, runs⟩ := file_and_text_agree source "a.sp".toList isName []
  have held := (found [("a.sp".toList, source.encode)]).mpr ⟨rfl, by decide⟩
  obtain ⟨-, stdout, -, reports, -, each⟩ := runs files held
  obtain ⟨-, exitCode, quiet⟩ := each "--eval==@".toList (by decide)
  have cuts : (Decomposition.item [] ['='] (.symbol .assign)
      (.item [] ['@'] .stray (.stop []))).Cuts source := by
    refine ⟨⟨?_, ⟨rfl, ?_⟩, ?_, ⟨⟨'@', rfl, by decide⟩, ?_⟩, ?_⟩, rfl⟩ <;>
      simp [Decomposition.Valid, Decomposition.text, IsBlankRun, Form.extendedBy, Form.kind,
        Kind.extendedBy]
  refine ⟨held, stdout, reports, ?_, quiet _ (by decide) _ (.inr rfl)⟩
  rw [exitCode, scan_diagnostics cuts]
  rfl

end Program

end Sprout
