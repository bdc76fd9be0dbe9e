import Mathlib.Data.List.Perm.Basic
import Sprout.Program
import Sprout.Proofs.Progress

set_option autoImplicit false

namespace Sprout

namespace CommandLine

namespace Progress

variable {p : Progress} {given : List Setting} {settings : Settings}

theorem contains_of_count {setting : Setting} {flag : Bool}
    (count : given.count setting = flag.toNat) : given.contains setting = flag := by
  cases flag with
  | false => simpa [List.count_eq_zero] using count
  | true =>
    have positive : 0 < given.count setting := by rw [count]; decide
    simpa using List.count_pos_iff.mp positive

theorem Holds.finish_eq (holds : p.Holds given) (settles : p.settle = .ok p.settled)
    (single : (given.filterMap Setting.source?).length ≤ 1) :
    p.finish = .ok (settingsOf given) := by
  rw [finish, settles, settingsOf, contains_of_count holds.quiet, contains_of_count holds.interactive,
    ← holds.sources]
  rw [← holds.sources] at single
  match sources : p.sources ++ p.pending.sources, single with
  | [], _ => simp [Progress.settled, sources, bind, Except.bind]
  | [source], _ => simp [Progress.settled, sources, bind, Except.bind]

theorem Holds.finish_eq_ok_iff (holds : p.Holds given) (separate : Separate p.sources) :
    p.finish = .ok settings ↔ Consistent given ∧ settings = settingsOf given := by
  constructor
  · intro finished
    obtain ⟨q, settles, rest⟩ := bind_eq_ok_iff.mp finished
    obtain ⟨-, -, rfl⟩ := (settle_eq_ok_iff separate).mp settles
    have single : (given.filterMap Setting.source?).length ≤ 1 := by
      rw [← holds.sources]
      match sources : p.sources ++ p.pending.sources with
      | [] => simp
      | [source] => simp
      | first :: second :: more => simp [sources] at rest
    rw [holds.finish_eq settles single] at finished
    refine ⟨⟨single, ?_, ?_⟩, (Except.ok.inj finished).symm⟩
    · rw [holds.quiet]
      exact Bool.toNat_le _
    · rw [holds.interactive]
      exact Bool.toNat_le _
  · rintro ⟨consistent, rfl⟩
    have all := holds.separate consistent.distinct
    have settles := (settle_eq_ok_iff separate).mpr ⟨holds.settled, all, rfl⟩
    exact holds.finish_eq settles consistent.source

end Progress

theorem parse_eq_ok_iff {args : List Text} {settings : Settings} :
    parse args = .ok settings ↔
      ∃ given, Spells args given ∧ Consistent given ∧ settings = settingsOf given := by
  constructor
  · intro accepted
    obtain ⟨p, reads, finished⟩ := bind_eq_ok_iff.mp accepted
    obtain ⟨stage, separate⟩ := Progress.stage_of_readAll reads
    obtain ⟨q, settles, -⟩ := bind_eq_ok_iff.mp finished
    have noMissing := ((Progress.settle_eq_ok_iff separate).mp settles).1
    obtain ⟨given, spells, holds⟩ := stage.spells noMissing
    exact ⟨given, spells, (holds.finish_eq_ok_iff separate).mp finished⟩
  · rintro ⟨given, spells, consistent, rfl⟩
    obtain ⟨p, reads, holds, -⟩ :=
      Progress.holds_start.readAll_of_spells rfl spells consistent.distinct
    have separate := holds.separate_sources consistent.distinct
    exact bind_eq_ok_iff.mpr ⟨p, reads, (holds.finish_eq_ok_iff separate).mpr ⟨consistent, rfl⟩⟩

variable {given given' : List Setting}

theorem Consistent.of_perm (consistent : Consistent given) (perm : given'.Perm given) :
    Consistent given' where
  source := by
    rw [(perm.filterMap Setting.source?).length_eq]
    exact consistent.source
  quiet := by
    rw [perm.count_eq]
    exact consistent.quiet
  interactive := by
    rw [perm.count_eq]
    exact consistent.interactive

theorem Consistent.sources_eq (consistent : Consistent given) (perm : given'.Perm given) :
    given'.filterMap Setting.source? = given.filterMap Setting.source? := by
  have sources := perm.filterMap Setting.source?
  have single := consistent.source
  match given.filterMap Setting.source?, single, sources with
  | [], _, sources => exact List.perm_nil.mp sources
  | [source], _, sources => exact List.perm_singleton.mp sources

theorem Consistent.settings_eq (consistent : Consistent given) (perm : given'.Perm given) :
    settingsOf given' = settingsOf given := by
  have flags (setting : Setting) : given'.contains setting = given.contains setting := by
    rw [Bool.eq_iff_iff, List.contains_iff_mem, List.contains_iff_mem]
    exact perm.mem_iff
  rw [settingsOf, settingsOf, consistent.sources_eq perm, flags, flags]

end CommandLine

namespace Program

open CommandLine

theorem perform_exitCode_ne_usage (settings : Settings)
    (files : Text → Except FileError (List UInt8)) (stdin : List UInt8) :
    (perform settings files stdin).exitCode ≠ 2 := by
  have scan (source file : Text) (quiet : Bool) : (scanned source file quiet).exitCode ≠ 2 := by
    rw [scanned]
    split <;> simp
  rw [perform]
  split
  next path _ =>
    split
    next source _ => exact scan source path settings.quiet
    next error _ => simp [unreadable]
  next source _ => exact scan source _ settings.quiet
  next => simp

theorem outcome_of_spells {args : List Text} {given : List Setting} (spells : Spells args given)
    (consistent : Consistent given) (files : Text → Except FileError (List UInt8))
    (stdin : List UInt8) :
    outcome args files stdin = perform (settingsOf given) files stdin := by
  rw [outcome, parse_eq_ok_iff.mpr ⟨given, spells, consistent, rfl⟩]

theorem command_line_follows_grammar (args : List Text)
    (files : Text → Except FileError (List UInt8)) (stdin : List UInt8)
    (noHelp : parse args ≠ .error .help) (noVersion : parse args ≠ .error .version) :
    ((outcome args files stdin).exitCode ≠ 2 ↔
      ∃ given, Spells args given ∧ Consistent given) ∧
    ∀ given, Spells args given → Consistent given →
      (∀ source, given.filterMap Setting.source? = [source] →
        outcome args files stdin = perform ⟨some source, given.contains .quiet, false⟩ files stdin) ∧
      (given.filterMap Setting.source? = [] → outcome args files stdin = ⟨0, Shell.session stdin⟩) ∧
      ∀ args' given', Spells args' given' → given'.Perm given →
        outcome args' files stdin = outcome args files stdin := by
  refine ⟨?_, ?_⟩
  · constructor
    · intro noUsage
      cases parsed : parse args with
      | ok settings =>
        obtain ⟨given, spells, consistent, -⟩ := parse_eq_ok_iff.mp parsed
        exact ⟨given, spells, consistent⟩
      | error stop =>
        cases stop with
        | help => exact absurd parsed noHelp
        | version => exact absurd parsed noVersion
        | usage error => simp [outcome, parsed, stopped] at noUsage
    · rintro ⟨given, spells, consistent⟩
      rw [outcome_of_spells spells consistent]
      exact perform_exitCode_ne_usage _ files stdin
  · intro given spells consistent
    have found := outcome_of_spells spells consistent files stdin
    refine ⟨?_, ?_, ?_⟩
    · intro source only
      rw [found, settingsOf, only]
      cases source <;> rfl
    · intro none
      rw [found, settingsOf, none]
      rfl
    · intro args' given' spells' perm
      rw [found, outcome_of_spells spells' (consistent.of_perm perm), consistent.settings_eq perm]

theorem command_line_follows_grammar_cluster :
    let args : List Text := ["-ie=-h".toList, "--quiet".toList]
    let files : Text → Except FileError (List UInt8) := fun _ => .error .notFound
    (outcome args files []).exitCode ≠ 2 ∧
      outcome args files [] = perform ⟨some (.text "-h".toList), true, false⟩ files [] ∧
      outcome ["-q".toList, "-ie-h".toList] files [] = outcome args files [] ∧
      ¬ ∃ given, Spells [['-'], "-e-h".toList] given ∧ Consistent given := by
  intro args files
  have spells : Spells args [.interactive, .eval "-h".toList, .quiet] :=
    .item (.evalEquals [.interactive] "-h".toList) (.item (.word .quiet) .nil)
  have spells' : Spells ["-q".toList, "-ie-h".toList] [.quiet, .interactive, .eval "-h".toList] :=
    .item (@Item.cluster [.quiet] (by simp))
      (.item (@Item.evalLetter [.interactive] "-h".toList (by decide) (by decide)) .nil)
  have consistent : Consistent [.interactive, .eval "-h".toList, .quiet] := by
    constructor <;> decide
  have accepted := parse_eq_ok_iff.mpr ⟨_, spells, consistent, rfl⟩
  obtain ⟨grammar, runs⟩ :=
    command_line_follows_grammar args files [] (by simp [accepted]) (by simp [accepted])
  obtain ⟨ofSource, -, spellings⟩ := runs _ spells consistent
  refine ⟨grammar.mpr ⟨_, spells, consistent⟩, ofSource _ rfl, spellings _ _ spells' ?_, ?_⟩
  · decide
  · intro spelled
    have both := command_line_follows_grammar [['-'], "-e-h".toList] files [] (by decide) (by decide)
    exact both.1.mpr spelled (by decide)

end Program

end Sprout
