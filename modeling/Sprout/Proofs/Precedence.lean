import Sprout.Proofs.CommandLines

set_option autoImplicit false

namespace Sprout

namespace CommandLine

/-- Arguments without a fault in front of their end, where eval waits for its value or has one that
nothing has settled. A separator may follow, but only where another file would be one too many. -/
def LeavesOpen (args : List Text) : Prop :=
  ∃ body given held, EndsOpen body given held ∧ Distinct given ∧
    (args = body ∨ args = body ++ ["--".toList] ∧ ∃ path, Setting.file path ∈ given)

def Stop.IsConflict (stop : Stop) : Prop := ∃ first second, stop = .usage (.conflict first second)

theorem any_isFile_iff {given : List Setting} :
    (given.filterMap Setting.source?).any Source.isFile = true ↔ ∃ path, Setting.file path ∈ given := by
  rw [List.any_eq_true]
  constructor
  · rintro ⟨source, member, isFile⟩
    obtain ⟨setting, given, same⟩ := List.mem_filterMap.mp member
    cases setting with
    | file path => exact ⟨path, given⟩
    | eval text =>
      obtain rfl := Option.some.inj same
      cases isFile
    | quiet => cases same
    | interactive => cases same
  · rintro ⟨path, member⟩
    exact ⟨.file path, List.mem_filterMap.mpr ⟨_, member, rfl⟩, rfl⟩

theorem bind_eq_error_iff {ε α β : Type} {x : Except ε α} {f : α → Except ε β} {e : ε} :
    x >>= f = .error e ↔ x = .error e ∨ ∃ a, x = .ok a ∧ f a = .error e := by
  cases x with
  | error e' => simp [bind, Except.bind]
  | ok a => simp [bind, Except.bind]

namespace Progress

variable {p : Progress} {args : List Text} {stop : Stop}

-- Reading never finds a conflict: a file and a text are compared at the end only.
def NoConflict (result : Except Stop Progress) : Prop := ∀ stop, result = .error stop → ¬ stop.IsConflict

theorem noConflict_ok (p : Progress) : NoConflict (.ok p) := by
  rintro stop ⟨⟩

theorem noConflict_error {stop : Stop} (other : ¬ stop.IsConflict) : NoConflict (.error stop) := by
  rintro stop ⟨⟩
  exact other

theorem noConflict_reject {error : UsageError} (other : ∀ first second, error ≠ .conflict first second) :
    NoConflict (reject error) := by
  refine noConflict_error ?_
  rintro ⟨first, second, same⟩
  exact other first second (Stop.usage.inj same)

theorem NoConflict.bind {result : Except Stop Progress} {f : Progress → Except Stop Progress}
    (here : NoConflict result) (later : ∀ p, NoConflict (f p)) : NoConflict (result >>= f) := by
  intro stop stopped
  rcases bind_eq_error_iff.mp stopped with stopped | ⟨p, -, stopped⟩
  · exact here stop stopped
  · exact later p stop stopped

theorem noConflict_addText (p : Progress) (source : Text) : NoConflict (p.addText source) := by
  unfold addText
  split
  · exact noConflict_ok _
  · exact noConflict_reject (by simp)

theorem noConflict_settle (p : Progress) : NoConflict p.settle := by
  unfold settle
  split
  · exact noConflict_ok p
  · exact noConflict_reject (by simp)
  · exact noConflict_addText p _

theorem noConflict_addFile (p : Progress) (path : Text) : NoConflict (p.addFile path) := by
  unfold addFile
  split
  · exact noConflict_reject (by simp)
  · exact p.noConflict_settle.bind fun _ => noConflict_ok _

theorem noConflict_attach (p : Progress) (source : Text) : NoConflict (p.attach source) :=
  p.noConflict_settle.bind fun settled => settled.noConflict_addText source

theorem noConflict_activate (p : Progress) (switch : Switch) : NoConflict (p.activate switch) := by
  refine p.noConflict_settle.bind fun settled => ?_
  have flag (already : Bool) (taken : Progress) :
      NoConflict (if already then reject (.repeated switch) else .ok taken) := by
    split
    · exact noConflict_reject (by simp)
    · exact noConflict_ok taken
  cases switch with
  | eval => exact noConflict_ok _
  | quiet => exact flag _ _
  | interactive => exact flag _ _
  | help => exact noConflict_error (by simp [Stop.IsConflict])
  | version => exact noConflict_error (by simp [Stop.IsConflict])

theorem noConflict_readLong (p : Progress) (name : Text) (value : Option Text) :
    NoConflict (p.readLong name value) := by
  unfold readLong
  split
  · exact noConflict_reject (by simp)
  · exact p.noConflict_activate _
  · exact p.noConflict_attach _
  · exact noConflict_reject (by simp)

theorem noConflict_readShort (p : Progress) (letters : Text) : NoConflict (p.readShort letters) := by
  induction letters generalizing p with
  | nil => exact noConflict_ok p
  | cons letter rest ih =>
    unfold readShort
    split
    · exact noConflict_reject (by simp)
    · exact p.noConflict_activate _
    · exact p.noConflict_attach _
    · exact p.noConflict_attach _
    · exact (p.noConflict_activate _).bind ih

theorem noConflict_read (p : Progress) (arg : Text) : NoConflict (p.read arg) := by
  unfold read
  split
  · exact p.noConflict_addFile arg
  · split
    next value _ =>
      unfold readPlain
      split
      · exact noConflict_ok _
      · exact p.noConflict_addFile value
    · exact noConflict_ok _
    · exact p.noConflict_readLong _ _
    · exact p.noConflict_readShort _

theorem noConflict_readAll (p : Progress) (args : List Text) : NoConflict (p.readAll args) := by
  induction args generalizing p with
  | nil => exact noConflict_ok p
  | cons arg args ih =>
    rw [readAll_cons]
    exact (p.noConflict_read arg).bind ih

theorem settle_eq_error (found : p.settle = .error stop) :
    p.pending ≠ .nothing ∧
      (stop = .usage (.missingValue .eval) ∨ stop = .usage (.repeated .eval)) := by
  obtain ⟨sources, quiet, interactive, pending, filesOnly⟩ := p
  cases pending with
  | nothing => cases found
  | missing => exact ⟨by simp, .inl (Except.error.inj found).symm⟩
  | taken source =>
    refine ⟨by simp, .inr ?_⟩
    change addText _ source = _ at found
    unfold addText at found
    split at found
    · cases found
    · exact (Except.error.inj found).symm

theorem finish_eq_error (found : p.finish = .error stop) : p.settle = .error stop ∨ stop.IsConflict := by
  rcases bind_eq_error_iff.mp found with found | ⟨q, -, found⟩
  · exact .inl found
  · split at found
    next first second _ _ => exact .inr ⟨first, second, (Except.error.inj found).symm⟩
    next => cases found

def IsOpen (p : Progress) : Prop :=
  p.pending ≠ .nothing ∧ (p.filesOnly = true → p.sources.any Source.isFile = true)

instance (p : Progress) : Decidable p.IsOpen :=
  inferInstanceAs (Decidable (p.pending ≠ .nothing ∧ (_ → _)))

theorem leavesOpen_of_readAll (reads : ({} : Progress).readAll args = .ok p) (isOpen : p.IsOpen) :
    LeavesOpen args := by
  obtain ⟨holding, full⟩ := isOpen
  obtain ⟨stage, separate⟩ := stage_of_readAll reads
  cases stage with
  | settled _ _ _ nothing => exact absurd nothing holding
  | files _ _ _ nothing => exact absurd nothing holding
  | held ends keeps => exact ⟨_, _, _, ends, keeps.distinct separate, .inl rfl⟩
  | cut ends keeps filesOnly =>
    have full := full filesOnly
    rw [keeps.sources] at full
    exact ⟨_, _, _, ends, keeps.distinct separate, .inr ⟨rfl, any_isFile_iff.mp full⟩⟩

theorem readAll_opening {front : List Text} {arg : Text} {given first : List Setting}
    (spells : Spells front given) (absent : "--".toList ∉ front) (opening : Opening arg first)
    (distinct : Distinct (given ++ first)) :
    ∃ q, ({} : Progress).readAll (front ++ [arg]) = .ok q ∧ q.Keeps (given ++ first) ∧
      q.pending = .missing ∧ q.filesOnly = false := by
  obtain ⟨p, reads, holds, reading⟩ :=
    holds_start.readAll_of_spells rfl spells distinct.of_append
  obtain ⟨r, accepted⟩ := holds.exists_giveAll distinct
  obtain ⟨holds', separate, same⟩ := holds.giveAll (holds.separate_sources distinct.of_append) accepted
  have activated := (activate_eval_eq_ok_iff separate).mpr ⟨holds'.settled, holds'.separate distinct, rfl⟩
  refine ⟨_, ?_, holds'.holding .missing, rfl, same.trans (reading absent)⟩
  rw [readAll_append_of_ok reads, readAll_singleton, read_opening (reading absent) opening, accepted]
  exact activated

theorem readAll_endsOpen {body : List Text} {given : List Setting} {held : Pending}
    (ends : EndsOpen body given held) (distinct : Distinct given) :
    ∃ q, ({} : Progress).readAll body = .ok q ∧ q.Keeps given ∧ q.pending = held ∧
      q.filesOnly = false := by
  cases ends with
  | waits spells absent opening => exact readAll_opening spells absent opening distinct
  | @taken _ _ source _ _ spells absent opening plain =>
    obtain ⟨q, reads, keeps, missing, reading⟩ := readAll_opening spells absent opening distinct
    refine ⟨{ q with pending := .taken source }, ?_, ?_, rfl, reading⟩
    · rw [List.append_cons, readAll_append_of_ok reads, readAll_singleton,
        read_value reading missing plain]
    · exact ⟨keeps.sources, keeps.quiet, keeps.interactive⟩

theorem leavesOpen_iff :
    LeavesOpen args ↔ ∃ p, ({} : Progress).readAll args = .ok p ∧ p.IsOpen := by
  constructor
  · rintro ⟨body, given, held, ends, distinct, whole⟩
    obtain ⟨p, reads, keeps, pending, reading⟩ := readAll_endsOpen ends distinct
    have holding : p.pending ≠ .nothing := by
      rw [pending]
      cases ends <;> simp
    rcases whole with rfl | ⟨rfl, file⟩
    · exact ⟨p, reads, holding, by simp [reading]⟩
    · refine ⟨{ p with filesOnly := true }, ?_, holding, ?_⟩
      · rw [readAll_append_of_ok reads, readAll_singleton, read_separator reading]
      · intro _
        rw [keeps.sources]
        exact any_isFile_iff.mpr file
  · rintro ⟨p, reads, isOpen⟩
    exact leavesOpen_of_readAll reads isOpen

theorem read_of_filesOnly_error (filesOnly : p.filesOnly = true)
    (noFile : ¬ p.sources.any Source.isFile = true) (found : p.settle = .error stop) (path : Text) :
    p.read path = .error stop := by
  rw [read_of_filesOnly filesOnly, give, addFile, if_neg noFile, found]
  rfl

theorem settle_filesOnly (p : Progress) :
    ({ p with filesOnly := true } : Progress).settle =
      p.settle.map fun q => { q with filesOnly := true } := by
  obtain ⟨sources, quiet, interactive, pending, filesOnly⟩ := p
  cases pending with
  | nothing => rfl
  | missing => rfl
  | taken source =>
    show addText _ source = (addText _ source).map _
    unfold addText
    split <;> rfl

structure Stuck (p : Progress) (error : UsageError) : Prop where
  fails : p.settle = .error (.usage error)
  full : p.pending = .missing → p.filesOnly = true

namespace Stuck

variable {error : UsageError} (stuck : p.Stuck error)

include stuck

theorem addFile (path : Text) : ∃ other, p.addFile path = .error (.usage other) := by
  unfold Progress.addFile
  split
  · exact ⟨_, rfl⟩
  · rw [stuck.fails]
    exact ⟨_, rfl⟩

theorem activate (switch : Switch) : p.activate switch = .error (.usage error) := by
  rw [Progress.activate, stuck.fails]
  rfl

theorem attach (source : Text) : p.attach source = .error (.usage error) := by
  rw [Progress.attach, stuck.fails]
  rfl

theorem readLong (name : Text) (value : Option Text) :
    ∃ other, p.readLong name value = .error (.usage other) := by
  unfold Progress.readLong
  split
  · exact ⟨_, rfl⟩
  · exact ⟨_, stuck.activate _⟩
  · exact ⟨_, stuck.attach _⟩
  · exact ⟨_, rfl⟩

theorem readShort (letters : Text) :
    p.readShort letters = .ok p ∨ ∃ other, p.readShort letters = .error (.usage other) := by
  cases letters with
  | nil => exact .inl rfl
  | cons letter rest =>
    right
    unfold Progress.readShort
    split
    · exact ⟨_, rfl⟩
    · exact ⟨_, stuck.activate _⟩
    · exact ⟨_, stuck.attach _⟩
    · exact ⟨_, stuck.attach _⟩
    · rw [stuck.activate]
      exact ⟨_, rfl⟩

theorem read (arg : Text) :
    (∃ q, p.read arg = .ok q ∧ q.Stuck error) ∨ ∃ other, p.read arg = .error (.usage other) := by
  unfold Progress.read
  split
  next => exact .inr (stuck.addFile arg)
  next reading =>
    split
    next value _ =>
      have noMissing : ¬ p.pending = .missing := mt stuck.full reading
      rw [readPlain, if_neg noMissing]
      exact .inr (stuck.addFile value)
    next =>
      have fails : ({ p with filesOnly := true } : Progress).settle = .error (.usage error) := by
        rw [settle_filesOnly, stuck.fails]
        rfl
      exact .inl ⟨_, rfl, fails, fun _ => rfl⟩
    next name value _ => exact .inr (stuck.readLong name value)
    next letters _ =>
      rcases stuck.readShort letters with same | refused
      · exact .inl ⟨p, same, stuck⟩
      · exact .inr refused

theorem readAll (args : List Text) :
    ∃ other, p.readAll args >>= finish = .error (.usage other) := by
  induction args generalizing p with
  | nil =>
    refine ⟨error, ?_⟩
    show p.settle >>= _ = _
    rw [stuck.fails]
    rfl
  | cons arg args ih =>
    rw [readAll_cons]
    rcases stuck.read arg with ⟨q, found, stuck⟩ | ⟨other, found⟩
    · rw [found]
      exact ih stuck
    · rw [found]
      exact ⟨other, rfl⟩

end Stuck

theorem stuck_of_readAll {error : UsageError} (reads : ({} : Progress).readAll args = .ok p)
    (fails : p.settle = .error (.usage error)) (given : ∀ given, ¬ EndsOpen args given .missing) :
    p.Stuck error := by
  refine ⟨fails, fun missing => ?_⟩
  obtain ⟨stage, -⟩ := stage_of_readAll reads
  cases stage with
  | settled _ _ _ nothing => simp [nothing] at missing
  | held ends => exact absurd (missing ▸ ends) (given _)
  | cut _ _ filesOnly => exact filesOnly
  | files _ _ _ _ filesOnly => exact filesOnly

end Progress

open Progress

instance (args : List Text) : Decidable (LeavesOpen args) :=
  match reads : ({} : Progress).readAll args with
  | .ok p => decidable_of_iff p.IsOpen (by simp [leavesOpen_iff, reads])
  | .error _ => isFalse (by simp [leavesOpen_iff, reads])

variable {args : List Text} {stop : Stop}

theorem parse_of_readAll (found : ({} : Progress).readAll args = .error stop) :
    parse args = .error stop :=
  bind_eq_error_iff.mpr (.inl found)

theorem parse_append_of_readAll (found : ({} : Progress).readAll args = .error stop)
    (more : List Text) : parse (args ++ more) = .error stop := by
  refine parse_of_readAll ?_
  rw [readAll_append, found]
  rfl

theorem parse_eq_error (stopped : parse args = .error stop) :
    ({} : Progress).readAll args = .error stop ∨
      ∃ p, ({} : Progress).readAll args = .ok p ∧ (p.settle = .error stop ∨ stop.IsConflict) := by
  rcases bind_eq_error_iff.mp stopped with found | ⟨p, reads, found⟩
  · exact .inl found
  · exact .inr ⟨p, reads, finish_eq_error found⟩

theorem parse_append_of_stop (stopped : parse args = .error stop) (noConflict : ¬ stop.IsConflict)
    (closed : ¬ LeavesOpen args) (more : List Text) : parse (args ++ more) = .error stop := by
  rcases parse_eq_error stopped with found | ⟨p, reads, found⟩
  · exact parse_append_of_readAll found more
  · have found := found.resolve_right noConflict
    have cut := mt (leavesOpen_of_readAll reads) closed
    obtain ⟨filesOnly, noFile⟩ := Classical.not_imp.mp (not_and.mp cut (settle_eq_error found).1)
    cases more with
    | nil => rwa [List.append_nil]
    | cons path more =>
      refine parse_of_readAll ?_
      rw [readAll_append_of_ok reads, readAll_cons, read_of_filesOnly_error filesOnly noFile found]
      rfl

-- What follows may be refused before what is held, but it is always refused.
theorem parse_append_of_usage {error : UsageError} (stopped : parse args = .error (.usage error))
    (noConflict : ¬ (Stop.usage error).IsConflict) (given : ∀ given, ¬ EndsOpen args given .missing)
    (more : List Text) : ∃ other, parse (args ++ more) = .error (.usage other) := by
  rcases parse_eq_error stopped with found | ⟨p, reads, found⟩
  · exact ⟨error, parse_append_of_readAll found more⟩
  · have stuck := stuck_of_readAll reads (found.resolve_right noConflict) given
    obtain ⟨other, refused⟩ := stuck.readAll more
    refine ⟨other, ?_⟩
    show ({} : Progress).readAll (args ++ more) >>= finish = _
    rw [readAll_append_of_ok reads, refused]

theorem parse_append_of_asked (either : stop = .help ∨ stop = .version)
    (stopped : parse args = .error stop) (more : List Text) : parse (args ++ more) = .error stop := by
  rcases parse_eq_error stopped with found | ⟨p, -, found | ⟨first, second, rfl⟩⟩
  · exact parse_append_of_readAll found more
  · rcases either with rfl | rfl
    all_goals rcases (settle_eq_error found).2 with other | other <;> cases other
  · rcases either with other | other <;> cases other

theorem stop_of_leavesOpen (leavesOpen : LeavesOpen args) (stopped : parse args = .error stop)
    (noConflict : ¬ stop.IsConflict) :
    stop = .usage (.missingValue .eval) ∨ stop = .usage (.repeated .eval) := by
  obtain ⟨p, reads, -⟩ := leavesOpen_iff.mp leavesOpen
  rcases parse_eq_error stopped with found | ⟨q, -, found⟩
  · rw [reads] at found
    cases found
  · exact (settle_eq_error (found.resolve_right noConflict)).2

theorem parse_append_of_leavesOpen (leavesOpen : LeavesOpen args) :
    parse (args ++ ["--nope".toList]) = .error (.usage (.unexpectedArgument "--nope".toList)) := by
  obtain ⟨p, reads, holding, full⟩ := leavesOpen_iff.mp leavesOpen
  have found : p.read "--nope".toList = .error (.usage (.unexpectedArgument "--nope".toList)) := by
    cases filesOnly : p.filesOnly with
    | true =>
      rw [read_of_filesOnly filesOnly, give, addFile, if_pos (full filesOnly)]
      rfl
    | false =>
      rw [Progress.read, if_neg (by simp [filesOnly])]
      rfl
  refine parse_of_readAll ?_
  rw [readAll_append_of_ok reads, readAll_singleton, found]

def asking : List Text := ["-h", "--help", "-V", "--version"].map String.toList

theorem read_asking {p q : Progress} (reading : p.filesOnly = false) (settles : p.settle = .ok q)
    {asks : Text} (member : asks ∈ asking) :
    ∃ stop, (stop = .help ∨ stop = .version) ∧ p.read asks = .error stop ∧
      parse [asks] = .error stop := by
  have helps : p.activate .help = .error .help := by rw [activate, settles]; rfl
  have versions : p.activate .version = .error .version := by rw [activate, settles]; rfl
  rw [Progress.read, if_neg (by simp [reading])]
  simp only [asking, List.map_cons, List.map_nil, List.mem_cons, List.not_mem_nil, or_false] at member
  rcases member with rfl | rfl | rfl | rfl
  · refine ⟨.help, .inl rfl, ?_, rfl⟩
    show p.activate .help >>= _ = _
    rw [helps]
    rfl
  · exact ⟨.help, .inl rfl, helps, rfl⟩
  · refine ⟨.version, .inr rfl, ?_, rfl⟩
    show p.activate .version >>= _ = _
    rw [versions]
    rfl
  · exact ⟨.version, .inr rfl, versions, rfl⟩

theorem parse_append_asking (absent : "--".toList ∉ args)
    (goesOn : ∀ stop, parse args = .error stop → stop.IsConflict) {asks : Text}
    (member : asks ∈ asking) (more : List Text) :
    ∃ stop, (stop = .help ∨ stop = .version) ∧ parse (args ++ asks :: more) = .error stop ∧
      parse [asks] = .error stop := by
  obtain ⟨p, reads⟩ : ∃ p, ({} : Progress).readAll args = .ok p := by
    cases reads : ({} : Progress).readAll args with
    | ok p => exact ⟨p, rfl⟩
    | error stop =>
      exact absurd (goesOn stop (parse_of_readAll reads)) (noConflict_readAll {} args stop reads)
  obtain ⟨q, settles⟩ : ∃ q, p.settle = .ok q := by
    cases settles : p.settle with
    | ok q => exact ⟨q, rfl⟩
    | error stop =>
      have stopped : parse args = .error stop :=
        bind_eq_error_iff.mpr (.inr ⟨p, reads, bind_eq_error_iff.mpr (.inl settles)⟩)
      exact absurd (goesOn stop stopped) (p.noConflict_settle stop settles)
  have reading : p.filesOnly = false := by
    obtain ⟨stage, -⟩ := stage_of_readAll reads
    cases stage with
    | settled _ _ _ _ reading => exact reading
    | held _ _ reading => exact reading
    | cut => exact absurd absent (by simp)
    | files => exact absurd absent (by simp)
  obtain ⟨stop, either, found, alone⟩ := read_asking reading settles member
  refine ⟨stop, either, ?_, alone⟩
  rw [List.append_cons]
  refine parse_append_of_readAll ?_ more
  rw [readAll_append_of_ok reads, readAll_singleton, found]

end CommandLine

namespace Program

open CommandLine

def Decisive (args : List Text) : Prop :=
  ∀ more files files' stdin stdin',
    outcome (args ++ more) files stdin = outcome args files' stdin'

theorem outcome_of_stop {args : List Text} {stop : Stop} (stopped : parse args = .error stop)
    (files : Text → Except FileError (List UInt8)) (stdin : List UInt8) :
    outcome args files stdin = Program.stopped stop := by
  rw [outcome, stopped]

theorem decisive_of_stop {args : List Text} {stop : Stop}
    (stopped : ∀ more, parse (args ++ more) = .error stop) : Decisive args := by
  intro more files files' stdin stdin'
  have alone := stopped []
  rw [List.append_nil] at alone
  rw [outcome_of_stop (stopped more), outcome_of_stop alone]

-- Help and version decide a run, and so does every usage error but the conflict of a file with a
-- text. What is found at the end only is refused there or by what follows, whose message then counts.
theorem first_decisive_argument_decides (args : List Text) :
    (parse args = .error .help ∨ parse args = .error .version → Decisive args) ∧
    (∀ error, parse args = .error (.usage error) → ¬ (Stop.usage error).IsConflict →
      (Decisive args ↔ ¬ LeavesOpen args) ∧
      ((∀ given, ¬ EndsOpen args given .missing) → ∀ more files stdin,
        (outcome (args ++ more) files stdin).exitCode = 2 ∧
        (outcome (args ++ more) files stdin).shown.stdout = []) ∧
      ∀ files stdin, (outcome args files stdin).exitCode = 2 ∧
        (outcome args files stdin).shown.stdout = []) ∧
    ("--".toList ∉ args → (∀ stop, parse args = .error stop → stop.IsConflict) →
      ∀ asks ∈ asking, ∀ more files files' stdin stdin',
        outcome (args ++ asks :: more) files stdin = outcome [asks] files' stdin' ∧
        (outcome [asks] files' stdin').exitCode = 0) := by
  refine ⟨?_, ?_, ?_⟩
  · rintro (stopped | stopped)
    · exact decisive_of_stop (parse_append_of_asked (.inl rfl) stopped)
    · exact decisive_of_stop (parse_append_of_asked (.inr rfl) stopped)
  · intro error stopped noConflict
    refine ⟨⟨?_, ?_⟩, ?_, fun files stdin => ?_⟩
    · intro decisive leavesOpen
      have same := decisive ["--nope".toList] (fun _ => .error .notFound) (fun _ => .error .notFound) [] []
      rw [outcome_of_stop (parse_append_of_leavesOpen leavesOpen), outcome_of_stop stopped] at same
      rcases stop_of_leavesOpen leavesOpen stopped noConflict with held | held
      all_goals
        rw [held] at same
        exact absurd same (by decide)
    · intro closed
      exact decisive_of_stop (parse_append_of_stop stopped noConflict closed)
    · intro given more files stdin
      obtain ⟨other, refused⟩ := parse_append_of_usage stopped noConflict given more
      rw [outcome_of_stop refused]
      exact ⟨rfl, rfl⟩
    · rw [outcome_of_stop stopped]
      exact ⟨rfl, rfl⟩
  · intro absent goesOn asks member more files files' stdin stdin'
    obtain ⟨stop, either, stopped, alone⟩ := parse_append_asking absent goesOn member more
    rw [outcome_of_stop stopped, outcome_of_stop alone]
    refine ⟨rfl, ?_⟩
    rcases either with rfl | rfl <;> rfl

theorem repeated_eval_is_not_decisive :
    ¬ ∀ (args more : List Text) (error : UsageError), parse args = .error (.usage error) →
      ¬ (Stop.usage error).IsConflict →
      (∀ front arg given, Opening arg given → args ≠ front ++ [arg]) →
      ∀ files stdin, (outcome (args ++ more) files stdin).shown.stderr.head? =
        (outcome args files stdin).shown.stderr.head? := by
  intro decides
  have noConflict : ¬ (Stop.usage (.repeated .eval)).IsConflict := by simp [Stop.IsConflict]
  have value (front : List Text) (arg : Text) (given : List Setting) (opening : Opening arg given) :
      ["-e".toList, "a".toList, "-e".toList, "b".toList] ≠ front ++ [arg] := by
    intro whole
    have last : "b".toList = arg := by simpa using congrArg List.getLast? whole
    subst last
    cases opening
  have same := decides _ ["--nope".toList] (.repeated .eval) rfl noConflict value
    (fun _ => .error .notFound) []
  exact absurd same (by decide)

theorem first_decisive_argument_decides_flags :
    let quiet : List Text := ["-q".toList, "-q".toList]
    let texts : List Text := ["-e".toList, "a".toList, "-e".toList, "b".toList]
    let both : List Text := ["a".toList, "-e".toList, "b".toList]
    let files : Text → Except FileError (List UInt8) := fun _ => .error .notFound
    Decisive ["-qh".toList, "-q".toList] ∧ Decisive quiet ∧ ¬ Decisive texts ∧
      (outcome (texts ++ ["--help".toList]) files []).exitCode = 2 ∧
      (outcome (texts ++ ["--help".toList]) files []).shown.stdout = [] ∧
      outcome (both ++ ["--version".toList, "--nope".toList]) files [] =
        outcome ["--version".toList] files [] := by
  intro quiet texts both files
  obtain ⟨asked, -, -⟩ := first_decisive_argument_decides ["-qh".toList, "-q".toList]
  obtain ⟨-, refused, -⟩ := first_decisive_argument_decides quiet
  obtain ⟨-, unsettled, -⟩ := first_decisive_argument_decides texts
  obtain ⟨-, -, goesOn⟩ := first_decisive_argument_decides both
  have repeated := unsettled (.repeated .eval) rfl (by simp [Stop.IsConflict])
  have given (given : List Setting) : ¬ EndsOpen texts given .missing := by
    intro ends
    generalize whole : texts = body at ends
    cases ends with
    | @waits _ arg _ _ _ _ opening =>
      have last : "b".toList = arg := by simpa [texts] using congrArg List.getLast? whole
      subst last
      cases opening
  refine ⟨asked (.inl rfl), ?_, ?_, ?_, ?_, ?_⟩
  · exact (refused (.repeated .quiet) rfl (by simp [Stop.IsConflict])).1.mpr (by decide)
  · rw [repeated.1, not_not]
    decide
  · exact (repeated.2.1 given ["--help".toList] files []).1
  · exact (repeated.2.1 given ["--help".toList] files []).2
  · have conflict (stop : Stop) (stopped : parse both = .error stop) : stop.IsConflict :=
      ⟨.file "a".toList, .text "b".toList, (Except.error.inj stopped).symm⟩
    exact (goesOn (by decide) conflict "--version".toList (by decide) ["--nope".toList] files files [] []).1

end Program

end Sprout
