import Sprout.CommandLine.Parse

set_option autoImplicit false

namespace Sprout.CommandLine

inductive Setting where
  | file (path : Text)
  | eval (source : Text)
  | quiet
  | interactive
deriving DecidableEq, Repr

def Setting.source? : Setting → Option Source
  | file path => some (.file path)
  | eval source => some (.text source)
  | _ => none

inductive Flag where
  | quiet | interactive
deriving DecidableEq, Repr

namespace Flag

def setting : Flag → Setting
  | quiet => .quiet
  | interactive => .interactive

def word : Flag → Text
  | quiet => "--quiet".toList
  | interactive => "--interactive".toList

def letter : Flag → Char
  | quiet => 'q'
  | interactive => 'i'

def cluster (flags : List Flag) : Text := '-' :: flags.map letter

def settings (flags : List Flag) : List Setting := flags.map setting

end Flag

def IsPlain (arg : Text) : Prop := arg = ['-'] ∨ arg.head? ≠ some '-'

inductive Item : Text → List Setting → Prop where
  | file {path : Text} (plain : IsPlain path) : Item path [.file path]
  | word (flag : Flag) : Item flag.word [flag.setting]
  | evalWord (source : Text) : Item ("--eval=".toList ++ source) [.eval source]
  | cluster {flags : List Flag} (solid : flags ≠ []) : Item (Flag.cluster flags) (Flag.settings flags)
  | evalEquals (flags : List Flag) (source : Text) :
      Item (Flag.cluster flags ++ 'e' :: '=' :: source) (Flag.settings flags ++ [.eval source])
  | evalLetter (flags : List Flag) {source : Text} (solid : source ≠ [])
      (noEquals : source.head? ≠ some '=') :
      Item (Flag.cluster flags ++ 'e' :: source) (Flag.settings flags ++ [.eval source])

theorem Item.given_ne_nil {arg : Text} {given : List Setting} (item : Item arg given) :
    given ≠ [] := by
  cases item with
  | cluster solid => simpa [Flag.settings] using solid
  | _ => simp

/-- An argument that takes the next one as the value of eval, and what it gives before that. -/
inductive Opening : Text → List Setting → Prop where
  | word : Opening "--eval".toList []
  | letter (flags : List Flag) : Opening (Flag.cluster flags ++ ['e']) (Flag.settings flags)

inductive Spells : List Text → List Setting → Prop where
  | nil : Spells [] []
  | item {arg : Text} {args : List Text} {given later : List Setting} (item : Item arg given)
      (more : Spells args later) : Spells (arg :: args) (given ++ later)
  | value {arg source : Text} {args : List Text} {given later : List Setting}
      (opening : Opening arg given) (plain : IsPlain source) (more : Spells args later) :
      Spells (arg :: source :: args) (given ++ .eval source :: later)
  | separator (paths : List Text) : Spells ("--".toList :: paths) (paths.map .file)

structure Consistent (given : List Setting) : Prop where
  source : (given.filterMap Setting.source?).length ≤ 1
  quiet : given.count .quiet ≤ 1
  interactive : given.count .interactive ≤ 1

def settingsOf (given : List Setting) : Settings where
  source := (given.filterMap Setting.source?).head?
  quiet := given.contains .quiet
  interactive := given.contains .interactive

theorem bind_eq_ok_iff {ε α β : Type} {x : Except ε α} {f : α → Except ε β} {b : β} :
    x >>= f = .ok b ↔ ∃ a, x = .ok a ∧ f a = .ok b := by
  cases x with
  | error e => simp [bind, Except.bind]
  | ok a => simp [bind, Except.bind]

theorem Argument.ofText_cases (arg : Text) :
    (IsPlain arg ∧ ofText arg = plain arg) ∨
      (arg = "--".toList ∧ ofText arg = separator) ∨
      (∃ body, body ≠ [] ∧ arg = '-' :: '-' :: body ∧
        ofText arg = long (body.takeWhile (· != '=')) (body.dropWhile (· != '=')).tail?) ∨
      ∃ letter rest, letter ≠ '-' ∧ arg = '-' :: letter :: rest ∧
        ofText arg = short (letter :: rest) := by
  unfold ofText
  split
  next => exact .inl ⟨.inl rfl, rfl⟩
  next => exact .inr (.inl ⟨rfl, rfl⟩)
  next body noSeparator =>
    refine .inr (.inr (.inl ⟨body, ?_, rfl, rfl⟩))
    rintro rfl
    exact noSeparator rfl
  next letters noHyphen noSeparator noLong =>
    cases letters with
    | nil => exact absurd rfl noHyphen
    | cons letter rest =>
      refine .inr (.inr (.inr ⟨letter, rest, ?_, rfl, rfl⟩))
      rintro rfl
      exact noLong rest rfl
  next value _ _ _ noShort =>
    refine .inl ⟨.inr ?_, rfl⟩
    intro hyphen
    obtain ⟨rest, rfl⟩ := List.head?_eq_some_iff.mp hyphen
    exact noShort rest rfl

theorem Argument.ofText_plain {arg : Text} (isPlain : IsPlain arg) : ofText arg = plain arg := by
  rcases ofText_cases arg with ⟨-, same⟩ | ⟨rfl, -⟩ | ⟨body, -, rfl, -⟩ | ⟨letter, rest, -, rfl, -⟩
  · exact same
  all_goals simp [IsPlain] at isPlain

theorem Argument.ofText_short {letter : Char} (noHyphen : letter ≠ '-') (rest : Text) :
    ofText ('-' :: letter :: rest) = short (letter :: rest) := by
  simp [ofText, noHyphen]

namespace Progress

def give (p : Progress) : Setting → Except Stop Progress
  | .file path => p.addFile path
  | .eval source => p.attach source
  | .quiet => p.activate .quiet
  | .interactive => p.activate .interactive

def giveAll (p : Progress) (given : List Setting) : Except Stop Progress := given.foldlM give p

theorem giveAll_cons (p : Progress) (setting : Setting) (later : List Setting) :
    p.giveAll (setting :: later) = p.give setting >>= (·.giveAll later) :=
  List.foldlM_cons ..

theorem giveAll_append (p : Progress) (given later : List Setting) :
    p.giveAll (given ++ later) = p.giveAll given >>= (·.giveAll later) :=
  List.foldlM_append ..

theorem giveAll_singleton (p : Progress) (setting : Setting) :
    p.giveAll [setting] = p.give setting := by
  rw [giveAll_cons]
  exact bind_pure (p.give setting)

theorem readShort_flag (p : Progress) (flag : Flag) (rest : Text) :
    p.readShort (flag.letter :: rest) = p.give flag.setting >>= (·.readShort rest) := by
  cases flag <;> rfl

theorem readShort_flags (p : Progress) (flags : List Flag) (tail : Text) :
    p.readShort (flags.map Flag.letter ++ tail) =
      p.giveAll (Flag.settings flags) >>= (·.readShort tail) := by
  induction flags generalizing p with
  | nil => rfl
  | cons flag flags ih =>
    rw [List.map_cons, List.cons_append, readShort_flag, Flag.settings, List.map_cons,
      giveAll_cons, bind_assoc]
    exact congrArg (p.give flag.setting >>= ·) (funext ih)

theorem readShort_evalEquals (p : Progress) (source : Text) :
    p.readShort ('e' :: '=' :: source) = p.attach source := rfl

theorem readShort_evalLetter (p : Progress) {source : Text} (solid : source ≠ [])
    (noEquals : source.head? ≠ some '=') : p.readShort ('e' :: source) = p.attach source := by
  have eval : Switch.ofShort? 'e' = some .eval := rfl
  unfold readShort
  rw [eval]
  split
  next unknown => cases unknown
  next => exact absurd rfl solid
  next => exact absurd rfl noEquals
  next => rfl
  next other known _ _ => exact absurd (Option.some.inj known).symm other

theorem activate_ok {p q : Progress} {switch : Switch} (activated : p.activate switch = .ok q) :
    switch = .eval ∨ switch = .quiet ∨ switch = .interactive := by
  obtain ⟨settled, -, stops⟩ := bind_eq_ok_iff.mp activated
  cases switch with
  | eval => exact .inl rfl
  | quiet => exact .inr (.inl rfl)
  | interactive => exact .inr (.inr rfl)
  | help => cases stops
  | version => cases stops

theorem readShort_cons_ok {p q : Progress} {letter : Char} {rest : Text}
    (read : p.readShort (letter :: rest) = .ok q) :
    letter = 'e' ∨ ∃ flag : Flag, letter = flag.letter ∧ ∃ later, readShort later rest = .ok q := by
  cases known : Switch.ofShort? letter with
  | none => simp [readShort, known, reject] at read
  | some switch =>
    obtain rfl : switch.short = letter := by simpa using List.find?_some known
    by_cases eval : switch = .eval
    next => exact .inl (by rw [eval]; rfl)
    next =>
      have step : p.readShort (switch.short :: rest) = p.activate switch >>= (·.readShort rest) := by
        cases switch with
        | eval => exact absurd rfl eval
        | _ => rfl
      rw [step] at read
      obtain ⟨later, activated, more⟩ := bind_eq_ok_iff.mp read
      rcases (activate_ok activated).resolve_left eval with rfl | rfl
      · exact .inr ⟨.quiet, rfl, later, more⟩
      · exact .inr ⟨.interactive, rfl, later, more⟩

theorem letters_of_readShort {p q : Progress} {letters : Text} (read : p.readShort letters = .ok q) :
    ∃ flags : List Flag, letters = flags.map Flag.letter ∨
      ∃ source, letters = flags.map Flag.letter ++ 'e' :: source := by
  induction letters generalizing p with
  | nil => exact ⟨[], .inl rfl⟩
  | cons letter rest ih =>
    rcases readShort_cons_ok read with rfl | ⟨flag, rfl, later, read⟩
    · exact ⟨[], .inr ⟨rest, rfl⟩⟩
    · obtain ⟨flags, rfl | ⟨source, rfl⟩⟩ := ih read
      · exact ⟨flag :: flags, .inl rfl⟩
      · exact ⟨flag :: flags, .inr ⟨source, rfl⟩⟩

theorem readLong_ok {p q : Progress} {name : Text} {value : Option Text}
    (read : p.readLong name value = .ok q) :
    name = "eval".toList ∨ ∃ flag : Flag, '-' :: '-' :: name = flag.word ∧ value = none := by
  cases known : Switch.ofLong? name with
  | none => simp [readLong, known, reject] at read
  | some switch =>
    obtain rfl : switch.long = name := by simpa using List.find?_some known
    by_cases eval : switch = .eval
    next => exact .inl (by rw [eval]; rfl)
    next =>
      cases value with
      | some value =>
        have refused : p.readLong switch.long (some value) = reject (.unexpectedValue switch value) := by
          cases switch with
          | eval => exact absurd rfl eval
          | _ => rfl
        rw [refused] at read
        cases read
      | none =>
        have step : p.readLong switch.long none = p.activate switch := by cases switch <;> rfl
        rw [step] at read
        rcases (activate_ok read).resolve_left eval with rfl | rfl
        · exact .inr ⟨.quiet, rfl, rfl⟩
        · exact .inr ⟨.interactive, rfl, rfl⟩

theorem long_parts (body : Text) :
    ((body.dropWhile (· != '=')).tail? = none ∧ body.takeWhile (· != '=') = body) ∨
      ∃ value, (body.dropWhile (· != '=')).tail? = some value ∧
        body = body.takeWhile (· != '=') ++ '=' :: value := by
  have whole := body.takeWhile_append_dropWhile (p := (· != '='))
  cases left : body.dropWhile (· != '=') with
  | nil =>
    rw [left, List.append_nil] at whole
    exact .inl ⟨rfl, whole⟩
  | cons c value =>
    have stopped := List.head?_dropWhile_not (· != '=') body
    rw [left] at stopped whole
    obtain rfl : c = '=' := by simpa using stopped
    exact .inr ⟨value, rfl, whole.symm⟩

theorem known_of_readLong {p q : Progress} {body : Text}
    (read : p.readLong (body.takeWhile (· != '=')) (body.dropWhile (· != '=')).tail? = .ok q) :
    (∃ given, Item ('-' :: '-' :: body) given) ∨ ∃ given, Opening ('-' :: '-' :: body) given := by
  rcases long_parts body with ⟨noValue, name⟩ | ⟨value, hasValue, parts⟩
  · rw [noValue, name] at read
    rcases readLong_ok read with rfl | ⟨flag, word, -⟩
    · exact .inr ⟨_, .word⟩
    · rw [word]
      exact .inl ⟨_, .word flag⟩
  · rw [hasValue] at read
    rcases readLong_ok read with eval | ⟨-, -, noValue⟩
    · rw [parts, eval]
      exact .inl ⟨_, .evalWord value⟩
    · cases noValue

theorem read_of_filesOnly {p : Progress} (filesOnly : p.filesOnly = true) (path : Text) :
    p.read path = p.give (.file path) := by
  rw [read, if_pos filesOnly]
  rfl

theorem read_separator {p : Progress} (reading : p.filesOnly = false) :
    p.read "--".toList = .ok { p with filesOnly := true } := by
  simp [read, reading, Argument.ofText]

theorem read_short {p : Progress} (reading : p.filesOnly = false) {letter : Char}
    (noHyphen : letter ≠ '-') (rest : Text) :
    p.read ('-' :: letter :: rest) = p.readShort (letter :: rest) := by
  simp [read, reading, Argument.ofText_short noHyphen]

theorem read_cluster {p : Progress} (reading : p.filesOnly = false) {flags : List Flag} {tail : Text}
    (solid : flags ≠ [] ∨ tail.head? = some 'e') :
    p.read (Flag.cluster flags ++ tail) =
      p.giveAll (Flag.settings flags) >>= (·.readShort tail) := by
  rw [← readShort_flags]
  cases flags with
  | nil =>
    obtain ⟨source, rfl⟩ := List.head?_eq_some_iff.mp (solid.resolve_left (absurd rfl))
    exact read_short reading (by decide) source
  | cons flag flags =>
    have noHyphen : flag.letter ≠ '-' := by cases flag <;> decide
    exact read_short reading noHyphen (flags.map Flag.letter ++ tail)

-- Only a plain argument could be taken as the value that eval waits for.
theorem read_item {p : Progress} (reading : p.filesOnly = false) {arg : Text} {given : List Setting}
    (item : Item arg given) (settled : IsPlain arg → p.pending ≠ .missing) :
    p.read arg = p.giveAll given := by
  cases item with
  | file plain =>
    rw [giveAll_singleton, read, if_neg (by simp [reading]), Argument.ofText_plain plain]
    exact if_neg (settled plain)
  | word flag =>
    rw [giveAll_singleton, read, if_neg (by simp [reading])]
    cases flag <;> rfl
  | evalWord source =>
    rw [giveAll_singleton, read, if_neg (by simp [reading])]
    rfl
  | @cluster flags solid =>
    have found := @read_cluster p reading flags [] (.inl solid)
    rw [List.append_nil] at found
    rw [found]
    exact bind_pure _
  | evalEquals flags source =>
    rw [read_cluster reading (.inr rfl), giveAll_append]
    simp only [readShort_evalEquals, giveAll_singleton]
    rfl
  | evalLetter flags solid noEquals =>
    rw [read_cluster reading (.inr rfl), giveAll_append]
    simp only [readShort_evalLetter _ solid noEquals, giveAll_singleton]
    rfl

theorem read_opening {p : Progress} (reading : p.filesOnly = false) {arg : Text}
    {given : List Setting} (opening : Opening arg given) :
    p.read arg = p.giveAll given >>= (·.activate .eval) := by
  cases opening with
  | word =>
    rw [read, if_neg (by simp [reading])]
    rfl
  | letter flags => exact read_cluster reading (.inr rfl)

theorem known_of_read {p q : Progress} (reading : p.filesOnly = false) {arg : Text}
    (found : p.read arg = .ok q) :
    (∃ given, Item arg given) ∨ (∃ given, Opening arg given) ∨ arg = "--".toList := by
  rcases Argument.ofText_cases arg with
    ⟨plain, -⟩ | ⟨separator, -⟩ | ⟨body, solid, rfl, long⟩ | ⟨letter, rest, noHyphen, rfl, -⟩
  · exact .inl ⟨_, .file plain⟩
  · exact .inr (.inr separator)
  · rw [read, if_neg (by simp [reading]), long] at found
    exact (known_of_readLong found).imp_right .inl
  · rw [read_short reading noHyphen] at found
    obtain ⟨flags, same | ⟨source, same⟩⟩ := letters_of_readShort found
    · have some : flags ≠ [] := by
        rintro rfl
        cases same
      rw [same]
      exact .inl ⟨_, .cluster some⟩
    · rw [same]
      by_cases empty : source = []
      next =>
        rw [empty]
        exact .inr (.inl ⟨_, .letter flags⟩)
      next =>
        by_cases equals : source.head? = some '='
        next =>
          obtain ⟨value, rfl⟩ := List.head?_eq_some_iff.mp equals
          exact .inl ⟨_, .evalEquals flags value⟩
        next => exact .inl ⟨_, .evalLetter flags empty equals⟩

end Progress

end Sprout.CommandLine
