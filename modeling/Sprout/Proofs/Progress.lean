import Mathlib.Data.List.Induction
import Sprout.Proofs.Spellings

set_option autoImplicit false

namespace Sprout.CommandLine

theorem Setting.filterMap_source? (setting : Setting) :
    [setting].filterMap source? = setting.source?.toList := by
  cases setting <;> rfl

def Pending.sources : Pending → List Source
  | taken source => [.text source]
  | _ => []

def Separate (sources : List Source) : Prop := (sources.map Source.isFile).Nodup

theorem separate_append_iff {first last : List Source} :
    Separate (first ++ last) ↔
      Separate first ∧ Separate last ∧ ∀ a ∈ first, ∀ b ∈ last, a.isFile ≠ b.isFile := by
  rw [Separate, List.map_append, List.nodup_append]
  simp [Separate]

theorem separate_concat_iff {first : List Source} {last : Source} :
    Separate (first ++ [last]) ↔ Separate first ∧ ∀ a ∈ first, a.isFile ≠ last.isFile := by
  rw [separate_append_iff]
  simp [Separate]

structure Distinct (given : List Setting) : Prop where
  sources : Separate (given.filterMap Setting.source?)
  quiet : given.count .quiet ≤ 1
  interactive : given.count .interactive ≤ 1

theorem Distinct.of_append {given later : List Setting} (distinct : Distinct (given ++ later)) :
    Distinct given where
  sources := by
    have separate := distinct.sources
    rw [List.filterMap_append] at separate
    exact (separate_append_iff.mp separate).1
  quiet := by
    have bound := distinct.quiet
    rw [List.count_append] at bound
    omega
  interactive := by
    have bound := distinct.interactive
    rw [List.count_append] at bound
    omega

theorem Consistent.distinct {given : List Setting} (consistent : Consistent given) :
    Distinct given where
  sources := by
    have single := consistent.source
    match given.filterMap Setting.source?, single with
    | [], _ => simp [Separate]
    | [source], _ => simp [Separate]
  quiet := consistent.quiet
  interactive := consistent.interactive

theorem IsPlain.ne_separator {arg : Text} (plain : IsPlain arg) : arg ≠ "--".toList := by
  rintro rfl
  simp [IsPlain] at plain

theorem Opening.ne_separator {arg : Text} {given : List Setting} (opening : Opening arg given) :
    arg ≠ "--".toList := by
  cases opening with
  | word => decide
  | letter flags =>
    cases flags with
    | nil => simp [Flag.cluster]
    | cons flag flags => cases flag <;> simp [Flag.cluster, Flag.letter]

theorem not_mem_concat {α : Type} {stop last : α} {front : List α} (absent : stop ∉ front)
    (different : last ≠ stop) : stop ∉ front ++ [last] := by
  simp [absent, different.symm]

theorem Spells.append {front args : List Text} {given later : List Setting}
    (spells : Spells front given) (absent : "--".toList ∉ front) (more : Spells args later) :
    Spells (front ++ args) (given ++ later) := by
  induction spells with
  | nil => exact more
  | item item _ ih =>
    rw [List.append_assoc]
    exact .item item (ih (List.not_mem_of_not_mem_cons absent))
  | value opening plain _ ih =>
    rw [List.append_assoc]
    have behind := List.not_mem_of_not_mem_cons (List.not_mem_of_not_mem_cons absent)
    exact .value opening plain (ih behind)
  | separator paths => exact absurd (List.mem_cons_self ..) absent

/-- Arguments that end with an eval switch by itself or with its value, what they give before, and
what the switch holds. -/
inductive EndsOpen : List Text → List Setting → Pending → Prop where
  | waits {front : List Text} {arg : Text} {given first : List Setting} (spells : Spells front given)
      (absent : "--".toList ∉ front) (opening : Opening arg first) :
      EndsOpen (front ++ [arg]) (given ++ first) .missing
  | taken {front : List Text} {arg source : Text} {given first : List Setting}
      (spells : Spells front given) (absent : "--".toList ∉ front) (opening : Opening arg first)
      (plain : IsPlain source) :
      EndsOpen (front ++ [arg, source]) (given ++ first) (.taken source)

theorem EndsOpen.spells {body : List Text} {given : List Setting} {source : Text}
    (ends : EndsOpen body given (.taken source)) :
    Spells body (given ++ [.eval source]) ∧ "--".toList ∉ body := by
  cases ends with
  | taken spells absent opening plain =>
    constructor
    · rw [List.append_assoc]
      exact spells.append absent (.value opening plain .nil)
    · rw [List.append_cons]
      exact not_mem_concat (not_mem_concat absent opening.ne_separator) plain.ne_separator

namespace Progress

variable {p q : Progress} {before given : List Setting} {setting : Setting} {arg source : Text}
  {args : List Text}

-- A value that was taken and is not settled yet counts as given.
structure Holds (p : Progress) (given : List Setting) : Prop where
  settled : p.pending ≠ .missing
  sources : p.sources ++ p.pending.sources = given.filterMap Setting.source?
  quiet : given.count .quiet = p.quiet.toNat
  interactive : given.count .interactive = p.interactive.toNat

structure Keeps (p : Progress) (given : List Setting) : Prop where
  sources : p.sources = given.filterMap Setting.source?
  quiet : given.count .quiet = p.quiet.toNat
  interactive : given.count .interactive = p.interactive.toNat

theorem holds_start : ({} : Progress).Holds [] where
  settled := by simp
  sources := rfl
  quiet := rfl
  interactive := rfl

theorem Holds.onlyFiles (holds : p.Holds given) : ({ p with filesOnly := true }).Holds given :=
  ⟨holds.settled, holds.sources, holds.quiet, holds.interactive⟩

theorem Keeps.holds (keeps : p.Keeps given) (taken : p.pending = .taken source) :
    p.Holds (given ++ [Setting.eval source]) where
  settled := by simp [taken]
  sources := by rw [List.filterMap_append, ← keeps.sources, taken]; rfl
  quiet := by rw [List.count_append, keeps.quiet]; rfl
  interactive := by rw [List.count_append, keeps.interactive]; rfl

theorem Keeps.distinct (keeps : p.Keeps given) (separate : Separate p.sources) :
    Distinct given where
  sources := keeps.sources ▸ separate
  quiet := by
    rw [keeps.quiet]
    exact Bool.toNat_le _
  interactive := by
    rw [keeps.interactive]
    exact Bool.toNat_le _

theorem addText_eq_ok_iff (separate : Separate p.sources) :
    p.addText source = .ok q ↔ Separate (p.sources ++ [.text source]) ∧
      q = { p with sources := p.sources ++ [.text source], pending := .nothing } := by
  have onlyFiles : p.sources.all Source.isFile = true ↔ Separate (p.sources ++ [.text source]) := by
    rw [separate_concat_iff, List.all_eq_true, and_iff_right separate]
    simp [Source.isFile]
  rw [addText, ite_eq_iff, onlyFiles]
  simp [reject, eq_comm]

theorem settle_eq_ok_iff (separate : Separate p.sources) :
    p.settle = .ok q ↔ p.pending ≠ .missing ∧ Separate (p.sources ++ p.pending.sources) ∧
      q = { p with sources := p.sources ++ p.pending.sources, pending := .nothing } := by
  obtain ⟨sources, quiet, interactive, pending, filesOnly⟩ := p
  have separate : Separate sources := separate
  cases pending with
  | nothing => simp [settle, Pending.sources, separate, eq_comm]
  | missing => simp [settle, reject]
  | taken source => simpa [settle, Pending.sources] using addText_eq_ok_iff separate

def settled (p : Progress) : Progress :=
  { p with sources := p.sources ++ p.pending.sources, pending := .nothing }

theorem settle_bind_eq_ok_iff (separate : Separate p.sources) {f : Progress → Except Stop Progress} :
    p.settle >>= f = .ok q ↔
      p.pending ≠ .missing ∧ Separate p.settled.sources ∧ f p.settled = .ok q := by
  simp only [bind_eq_ok_iff, settle_eq_ok_iff separate]
  constructor
  · rintro ⟨r, ⟨noMissing, separate, rfl⟩, more⟩
    exact ⟨noMissing, separate, more⟩
  · rintro ⟨noMissing, separate, more⟩
    exact ⟨_, ⟨noMissing, separate, rfl⟩, more⟩

def accept (p : Progress) (setting : Setting) : Progress where
  sources := p.sources ++ p.pending.sources ++ setting.source?.toList
  quiet := p.quiet || setting = .quiet
  interactive := p.interactive || setting = .interactive
  pending := .nothing
  filesOnly := p.filesOnly

def has (p : Progress) : Flag → Bool
  | .quiet => p.quiet
  | .interactive => p.interactive

structure Accepts (p : Progress) (setting : Setting) : Prop where
  noMissing : p.pending ≠ .missing
  separate : Separate (p.accept setting).sources
  unset : ∀ flag : Flag, setting = flag.setting → p.has flag = false

theorem isFile_of_pending {a : Source} (member : a ∈ p.pending.sources) : a.isFile = false := by
  unfold Pending.sources at member
  split at member
  next =>
    obtain rfl := List.mem_singleton.mp member
    rfl
  next => cases member

theorem separate_accept_file_iff (path : Text) :
    Separate (p.accept (.file path)).sources ↔
      Separate p.settled.sources ∧ ¬ p.sources.any Source.isFile = true := by
  rw [List.any_eq_true, accept, Setting.source?, Option.toList_some, separate_concat_iff]
  refine and_congr_right fun _ => ⟨?_, ?_⟩
  · rintro others ⟨a, member, isFile⟩
    exact others a (List.mem_append_left _ member) isFile
  · intro noFile a member isFile
    rcases List.mem_append.mp member with member | member
    · exact noFile ⟨a, member, isFile⟩
    · rw [isFile_of_pending member] at isFile
      cases isFile

theorem give_flag_eq_ok_iff (separate : Separate p.sources) (flag : Flag) :
    p.give flag.setting = .ok q ↔
      (p.pending ≠ .missing ∧ Separate p.settled.sources) ∧ p.has flag = false ∧
        q = p.accept flag.setting := by
  cases flag
  all_goals
    rw [Flag.setting, give, activate, settle_bind_eq_ok_iff separate, ite_eq_iff]
    simp [reject, has, settled, accept, Setting.source?, and_assoc, @eq_comm _ q]

theorem setting_inj {a b : Flag} (same : a.setting = b.setting) : a = b := by
  cases a <;> cases b <;> first | rfl | cases same

theorem give_eq_ok_iff (separate : Separate p.sources) :
    p.give setting = .ok q ↔ p.Accepts setting ∧ q = p.accept setting := by
  have ofFlag (flag : Flag) : p.give flag.setting = .ok q ↔
      p.Accepts flag.setting ∧ q = p.accept flag.setting := by
    have sources : (p.accept flag.setting).sources = p.settled.sources := by
      cases flag <;> exact List.append_nil _
    rw [give_flag_eq_ok_iff separate]
    constructor
    · rintro ⟨⟨noMissing, separate⟩, unset, same⟩
      exact ⟨⟨noMissing, sources ▸ separate, fun _ other => setting_inj other ▸ unset⟩, same⟩
    · rintro ⟨accepts, same⟩
      exact ⟨⟨accepts.noMissing, sources ▸ accepts.separate⟩, accepts.unset flag rfl, same⟩
  cases setting with
  | file path =>
    rw [give, addFile, ite_eq_iff, settle_bind_eq_ok_iff separate]
    constructor
    · rintro (⟨-, rejected⟩ | ⟨noFile, noMissing, separate, added⟩)
      · cases rejected
      · obtain rfl := Except.ok.inj added
        have room := (separate_accept_file_iff path).mpr ⟨separate, noFile⟩
        refine ⟨⟨noMissing, room, by rintro ⟨⟩ ⟨⟩⟩, ?_⟩
        simp [accept, settled, Setting.source?]
    · rintro ⟨accepts, rfl⟩
      obtain ⟨separate, noFile⟩ := (separate_accept_file_iff path).mp accepts.separate
      refine .inr ⟨noFile, accepts.noMissing, separate, ?_⟩
      simp [accept, settled, Setting.source?]
  | eval source =>
    rw [give, attach, settle_bind_eq_ok_iff separate]
    constructor
    · rintro ⟨noMissing, separate, added⟩
      obtain ⟨all, rfl⟩ := (addText_eq_ok_iff separate).mp added
      refine ⟨⟨noMissing, all, by rintro ⟨⟩ ⟨⟩⟩, ?_⟩
      simp [accept, settled, Setting.source?]
    · rintro ⟨accepts, rfl⟩
      have before := (separate_concat_iff.mp accepts.separate).1
      refine ⟨accepts.noMissing, before, (addText_eq_ok_iff before).mpr ⟨accepts.separate, ?_⟩⟩
      simp [accept, settled, Setting.source?]
  | quiet => exact ofFlag .quiet
  | interactive => exact ofFlag .interactive

theorem Holds.accept (holds : p.Holds given) (accepts : p.Accepts setting) :
    (p.accept setting).Holds (given ++ [setting]) where
  settled := by simp [Progress.accept]
  sources := by
    rw [List.filterMap_append, ← holds.sources, Setting.filterMap_source?]
    exact List.append_nil _
  quiet := by
    have unset : setting = .quiet → p.quiet = false := accepts.unset .quiet
    rw [List.count_append, holds.quiet]
    cases setting <;> simp [Progress.accept, unset]
  interactive := by
    have unset : setting = .interactive → p.interactive = false := accepts.unset .interactive
    rw [List.count_append, holds.interactive]
    cases setting <;> simp [Progress.accept, unset]

theorem Holds.accepts (holds : p.Holds given) (distinct : Distinct (given ++ [setting])) :
    p.Accepts setting where
  noMissing := holds.settled
  separate := by
    have separate := distinct.sources
    rwa [List.filterMap_append, ← holds.sources, Setting.filterMap_source?] at separate
  unset := by
    rintro flag rfl
    cases flag with
    | quiet =>
      have bound := distinct.quiet
      rw [List.count_append, holds.quiet] at bound
      cases quiet : p.quiet with
      | false => exact quiet
      | true => simp [quiet, Flag.setting] at bound
    | interactive =>
      have bound := distinct.interactive
      rw [List.count_append, holds.interactive] at bound
      cases interactive : p.interactive with
      | false => exact interactive
      | true => simp [interactive, Flag.setting] at bound

theorem Holds.giveAll (holds : p.Holds before) (separate : Separate p.sources)
    (accepted : p.giveAll given = .ok q) :
    q.Holds (before ++ given) ∧ Separate q.sources ∧ q.filesOnly = p.filesOnly := by
  induction given generalizing p before with
  | nil =>
    obtain rfl := Except.ok.inj accepted
    rw [List.append_nil]
    exact ⟨holds, separate, rfl⟩
  | cons setting later ih =>
    rw [giveAll_cons] at accepted
    obtain ⟨r, first, more⟩ := bind_eq_ok_iff.mp accepted
    obtain ⟨accepts, rfl⟩ := (give_eq_ok_iff separate).mp first
    obtain ⟨holds, rest⟩ := ih (holds.accept accepts) accepts.separate more
    rw [List.append_assoc] at holds
    exact ⟨holds, rest⟩

theorem Holds.separate (holds : p.Holds given) (distinct : Distinct given) :
    Separate p.settled.sources := by
  have separate := distinct.sources
  rwa [← holds.sources] at separate

theorem Holds.separate_sources (holds : p.Holds given) (distinct : Distinct given) :
    Separate p.sources :=
  (separate_append_iff.mp (holds.separate distinct)).1

theorem Holds.exists_giveAll (holds : p.Holds before) (distinct : Distinct (before ++ given)) :
    ∃ q, p.giveAll given = .ok q := by
  induction given generalizing p before with
  | nil => exact ⟨p, rfl⟩
  | cons setting later ih =>
    rw [List.append_cons] at distinct
    have accepts := holds.accepts distinct.of_append
    have separate := holds.separate_sources distinct.of_append.of_append
    obtain ⟨q, more⟩ := ih (holds.accept accepts) distinct
    refine ⟨q, ?_⟩
    rw [giveAll_cons, (give_eq_ok_iff separate).mpr ⟨accepts, rfl⟩]
    exact more

theorem pending_of_giveAll (solid : given ≠ []) (separate : Separate p.sources)
    (accepted : p.giveAll given = .ok q) : q.pending = .nothing := by
  induction given generalizing p with
  | nil => exact absurd rfl solid
  | cons setting later ih =>
    rw [giveAll_cons] at accepted
    obtain ⟨r, first, more⟩ := bind_eq_ok_iff.mp accepted
    obtain ⟨accepts, rfl⟩ := (give_eq_ok_iff separate).mp first
    cases later with
    | nil =>
      obtain rfl := Except.ok.inj more
      rfl
    | cons next later => exact ih (by simp) accepts.separate more

def holding (p : Progress) (held : Pending) : Progress := { p.settled with pending := held }

theorem activate_eval_eq_ok_iff (separate : Separate p.sources) :
    p.activate .eval = .ok q ↔
      p.pending ≠ .missing ∧ Separate p.settled.sources ∧ q = p.holding .missing := by
  rw [activate, settle_bind_eq_ok_iff separate]
  simp [holding, @eq_comm _ q]

theorem Holds.holding (holds : p.Holds given) (held : Pending) : (p.holding held).Keeps given :=
  ⟨holds.sources, holds.quiet, holds.interactive⟩

theorem read_value (reading : p.filesOnly = false) (missing : p.pending = .missing)
    (plain : IsPlain source) : p.read source = .ok { p with pending := .taken source } := by
  rw [read, if_neg (by simp [reading]), Argument.ofText_plain plain]
  exact if_pos missing

-- Nothing takes effect while the value of eval is missing.
theorem giveAll_of_missing (missing : p.pending = .missing) (separate : Separate p.sources)
    (solid : given ≠ []) : p.giveAll given ≠ .ok q := by
  cases given with
  | nil => exact absurd rfl solid
  | cons setting later =>
    rw [giveAll_cons]
    intro accepted
    obtain ⟨r, first, -⟩ := bind_eq_ok_iff.mp accepted
    exact ((give_eq_ok_iff separate).mp first).1.noMissing missing

theorem read_of_missing (reading : p.filesOnly = false) (missing : p.pending = .missing)
    (separate : Separate p.sources) (found : p.read arg = .ok q) :
    (IsPlain arg ∧ q = { p with pending := .taken arg }) ∨
      (arg = "--".toList ∧ q = { p with filesOnly := true }) := by
  by_cases plain : IsPlain arg
  next =>
    rw [read_value reading missing plain] at found
    exact .inl ⟨plain, (Except.ok.inj found).symm⟩
  next =>
    rcases known_of_read reading found with ⟨given, item⟩ | ⟨given, opening⟩ | rfl
    · rw [read_item reading item fun isPlain => absurd isPlain plain] at found
      exact absurd found (giveAll_of_missing missing separate item.given_ne_nil)
    · rw [read_opening reading opening] at found
      obtain ⟨r, first, activated⟩ := bind_eq_ok_iff.mp found
      cases given with
      | nil =>
        obtain rfl := Except.ok.inj first
        exact absurd missing ((activate_eval_eq_ok_iff separate).mp activated).1
      | cons setting later =>
        exact absurd first (giveAll_of_missing missing separate (by simp))
    · rw [read_separator reading] at found
      exact .inr ⟨rfl, (Except.ok.inj found).symm⟩

def readAll (p : Progress) (args : List Text) : Except Stop Progress := args.foldlM read p

theorem readAll_cons (p : Progress) (arg : Text) (args : List Text) :
    p.readAll (arg :: args) = p.read arg >>= (·.readAll args) :=
  List.foldlM_cons ..

theorem readAll_cons_of_ok (found : p.read arg = .ok q) (args : List Text) :
    p.readAll (arg :: args) = q.readAll args := by
  rw [readAll_cons, found]
  rfl

theorem readAll_append (p : Progress) (args later : List Text) :
    p.readAll (args ++ later) = p.readAll args >>= (·.readAll later) :=
  List.foldlM_append ..

theorem readAll_append_of_ok (reads : p.readAll args = .ok q) (later : List Text) :
    p.readAll (args ++ later) = q.readAll later := by
  rw [readAll_append, reads]
  rfl

theorem readAll_singleton (p : Progress) (arg : Text) : p.readAll [arg] = p.read arg :=
  bind_pure (p.read arg)

theorem readAll_of_filesOnly (filesOnly : p.filesOnly = true) (separate : Separate p.sources)
    (paths : List Text) : p.readAll paths = p.giveAll (paths.map .file) := by
  induction paths generalizing p with
  | nil => rfl
  | cons path later ih =>
    rw [readAll_cons, read_of_filesOnly filesOnly, List.map_cons, giveAll_cons]
    cases first : p.give (.file path) with
    | error stop => rfl
    | ok q =>
      obtain ⟨accepts, rfl⟩ := (give_eq_ok_iff separate).mp first
      exact ih filesOnly accepts.separate

theorem Holds.readAll_of_spells (holds : p.Holds before) (reading : p.filesOnly = false)
    (spells : Spells args given) (distinct : Distinct (before ++ given)) :
    ∃ q, p.readAll args = .ok q ∧ q.Holds (before ++ given) ∧
      ("--".toList ∉ args → q.filesOnly = false) := by
  have separate := holds.separate_sources distinct.of_append
  induction spells generalizing p before with
  | nil =>
    rw [List.append_nil]
    exact ⟨p, rfl, holds, fun _ => reading⟩
  | @item arg args given later item more ih =>
    rw [← List.append_assoc] at distinct ⊢
    obtain ⟨q, accepted⟩ := holds.exists_giveAll distinct.of_append
    obtain ⟨holds', separate', same⟩ := holds.giveAll separate accepted
    obtain ⟨r, reads, holds'', absent⟩ := ih holds' (same.trans reading) distinct separate'
    refine ⟨r, ?_, holds'', fun nowhere => absent (List.not_mem_of_not_mem_cons nowhere)⟩
    have first := (read_item reading item fun _ => holds.settled).trans accepted
    rw [readAll_cons_of_ok first, reads]
  | @value arg source args given later opening plain more ih =>
    rw [← List.append_assoc, List.append_cons] at distinct ⊢
    obtain ⟨q, accepted⟩ := holds.exists_giveAll distinct.of_append.of_append
    obtain ⟨holds', separate', same⟩ := holds.giveAll separate accepted
    have settles := holds'.separate distinct.of_append.of_append
    have activated := (activate_eval_eq_ok_iff separate').mpr ⟨holds'.settled, settles, rfl⟩
    have reading' : (q.holding .missing).filesOnly = false := same.trans reading
    have taken := (holds'.holding (.taken source)).holds rfl
    obtain ⟨r, reads, holds'', absent⟩ := ih taken reading' distinct settles
    refine ⟨r, ?_, holds'', fun nowhere => absent (List.not_mem_of_not_mem_cons
      (List.not_mem_of_not_mem_cons nowhere))⟩
    have first : p.read arg = .ok (q.holding .missing) := by
      rw [read_opening reading opening, accepted]
      exact activated
    rw [readAll_cons_of_ok first, readAll_cons_of_ok (read_value reading' rfl plain)]
    exact reads
  | separator paths =>
    obtain ⟨q, accepted⟩ := holds.onlyFiles.exists_giveAll distinct
    obtain ⟨holds', -, -⟩ := holds.onlyFiles.giveAll separate accepted
    refine ⟨q, ?_, holds', fun nowhere => absurd (List.mem_cons_self ..) nowhere⟩
    rw [readAll_cons_of_ok (read_separator reading)]
    exact (@readAll_of_filesOnly { p with filesOnly := true } rfl separate paths).trans accepted

/-- All is settled, or eval holds something at the end of the arguments, which a separator may have cut
off, or files have followed the separator. -/
inductive Stage : List Text → Progress → Prop where
  | settled {args : List Text} {given : List Setting} {p : Progress} (spells : Spells args given)
      (absent : "--".toList ∉ args) (holds : p.Holds given) (nothing : p.pending = .nothing)
      (reading : p.filesOnly = false) : Stage args p
  | held {body : List Text} {given : List Setting} {p : Progress}
      (ends : EndsOpen body given p.pending) (keeps : p.Keeps given) (reading : p.filesOnly = false) :
      Stage body p
  | cut {body : List Text} {given : List Setting} {p : Progress}
      (ends : EndsOpen body given p.pending) (keeps : p.Keeps given) (filesOnly : p.filesOnly = true) :
      Stage (body ++ ["--".toList]) p
  | files {front paths : List Text} {given : List Setting} {p : Progress} (spells : Spells front given)
      (absent : "--".toList ∉ front) (holds : p.Holds (given ++ paths.map .file))
      (nothing : p.pending = .nothing) (filesOnly : p.filesOnly = true) :
      Stage (front ++ "--".toList :: paths) p

theorem Holds.stage_read (holds : p.Holds given) (separate : Separate p.sources)
    (spells : Spells args given) (absent : "--".toList ∉ args) (reading : p.filesOnly = false)
    (noSeparator : arg ≠ "--".toList) (found : p.read arg = .ok q) :
    Stage (args ++ [arg]) q ∧ Separate q.sources := by
  rcases known_of_read reading found with ⟨later, item⟩ | ⟨later, opening⟩ | separator
  · rw [read_item reading item fun _ => holds.settled] at found
    obtain ⟨holds', separate', same⟩ := holds.giveAll separate found
    have nothing := pending_of_giveAll item.given_ne_nil separate found
    have more := spells.append absent (.item item .nil)
    rw [List.append_nil] at more
    exact ⟨.settled more (not_mem_concat absent noSeparator) holds' nothing (same.trans reading),
      separate'⟩
  · rw [read_opening reading opening] at found
    obtain ⟨r, accepted, activated⟩ := bind_eq_ok_iff.mp found
    obtain ⟨holds', separate', same⟩ := holds.giveAll separate accepted
    obtain ⟨-, settles, rfl⟩ := (activate_eval_eq_ok_iff separate').mp activated
    exact ⟨.held (.waits spells absent opening) (holds'.holding _) (same.trans reading), settles⟩
  · exact absurd separator noSeparator

theorem Stage.read (stage : Stage args p) (separate : Separate p.sources)
    (found : p.read arg = .ok q) : Stage (args ++ [arg]) q ∧ Separate q.sources := by
  cases stage with
  | @settled _ given _ spells absent holds nothing reading =>
    by_cases separator : arg = "--".toList
    next =>
      subst separator
      rw [read_separator reading] at found
      obtain rfl := Except.ok.inj found
      have holds' := holds.onlyFiles
      rw [← List.append_nil given] at holds'
      exact ⟨.files spells absent holds' nothing rfl, separate⟩
    next => exact holds.stage_read separate spells absent reading separator found
  | @held _ given _ ends keeps reading =>
    have keeps' (held : Pending) (cut : Bool) :
        ({ p with pending := held, filesOnly := cut }).Keeps given :=
      ⟨keeps.sources, keeps.quiet, keeps.interactive⟩
    by_cases separator : arg = "--".toList
    next =>
      subst separator
      rw [read_separator reading] at found
      obtain rfl := Except.ok.inj found
      exact ⟨.cut ends (keeps' _ true) rfl, separate⟩
    next =>
      generalize pending : p.pending = held at ends
      cases ends with
      | waits spells absent opening =>
        obtain ⟨plain, rfl⟩ := (read_of_missing reading pending separate found).resolve_right
          fun cut => separator cut.1
        rw [← List.append_cons]
        exact ⟨.held (.taken spells absent opening plain) (keeps' _ _) reading, separate⟩
      | taken spells absent opening plain =>
        have ends := EndsOpen.taken spells absent opening plain
        exact (keeps.holds pending).stage_read separate ends.spells.1 ends.spells.2 reading separator
          found
  | @cut body given _ ends keeps filesOnly =>
    rw [read_of_filesOnly filesOnly] at found
    obtain ⟨accepts, rfl⟩ := (give_eq_ok_iff separate).mp found
    generalize pending : p.pending = held at ends
    cases held with
    | nothing => cases ends
    | missing => exact absurd pending accepts.noMissing
    | taken source =>
      rw [List.append_assoc]
      refine ⟨.files ends.spells.1 ends.spells.2 ?_ rfl filesOnly, accepts.separate⟩
      exact (keeps.holds pending).accept accepts
  | files spells absent holds nothing filesOnly =>
    rw [read_of_filesOnly filesOnly] at found
    obtain ⟨accepts, rfl⟩ := (give_eq_ok_iff separate).mp found
    rw [List.append_assoc, List.cons_append]
    refine ⟨.files spells absent ?_ rfl filesOnly, accepts.separate⟩
    simpa using holds.accept accepts

theorem stage_of_readAll (reads : ({} : Progress).readAll args = .ok p) :
    Stage args p ∧ Separate p.sources := by
  induction args using List.reverseRecOn generalizing p with
  | nil =>
    obtain rfl := Except.ok.inj reads
    exact ⟨.settled .nil (by simp) holds_start rfl rfl, by simp [Separate]⟩
  | append_singleton args arg ih =>
    rw [readAll_append] at reads
    obtain ⟨r, before, last⟩ := bind_eq_ok_iff.mp reads
    rw [readAll_singleton] at last
    obtain ⟨stage, separate⟩ := ih before
    exact stage.read separate last

theorem Stage.spells (stage : Stage args p) (noMissing : p.pending ≠ .missing) :
    ∃ given, Spells args given ∧ p.Holds given := by
  cases stage with
  | settled spells _ holds => exact ⟨_, spells, holds⟩
  | held ends keeps =>
    generalize pending : p.pending = held at ends
    cases held with
    | nothing => cases ends
    | missing => exact absurd pending noMissing
    | taken source => exact ⟨_, ends.spells.1, keeps.holds pending⟩
  | cut ends keeps =>
    generalize pending : p.pending = held at ends
    cases held with
    | nothing => cases ends
    | missing => exact absurd pending noMissing
    | taken source =>
      have spells := ends.spells.1.append ends.spells.2 (.separator [])
      rw [List.map_nil, List.append_nil] at spells
      exact ⟨_, spells, keeps.holds pending⟩
  | files spells absent holds => exact ⟨_, spells.append absent (.separator _), holds⟩

end Progress

end Sprout.CommandLine
