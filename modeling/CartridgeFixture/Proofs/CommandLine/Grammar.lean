import CartridgeFixture.CommandLine.Run
import Mathlib.Data.List.Nodup

/-!
# The grammar of command lines

The reader goes through the arguments one at a time and carries a state along. What it accepts can be said without
it: a row of occurrences of parameters (`Occurrences`), each of one of five forms (`Gives`) and with a value that its
parameter admits (`Admits`), no parameter twice, and perhaps two dashes behind the last (`Spells`).

The state that the reader is in between two occurrences is told by its complete settings alone (`Between`), whether
the last value is still pending or has been checked already. An occurrence leads from one such state to the next
(`Between.readAll_gives`), and an argument that is read in such a state starts an occurrence, or ends the options
(`Between.read_cases`). From this both directions follow by induction, on the row of occurrences and on the number of
arguments: the reader accepts the grammar and nothing else, with the values that the occurrences give
(`accepts_exactly_grammar`).
-/
namespace CartridgeFixture.CommandLine

/-! ## The grammar -/

/-- A parameter by its letter. -/
def Parameter.short : Parameter → String
  | .output => "-o"
  | .logLevel => "-l"

/-- A parameter by its name. -/
def Parameter.long : Parameter → String
  | .output => "--output"
  | .logLevel => "--log-level"

/-- A value that can stand as an argument of its own: a single dash, or a text without a dash in front. -/
def Apart (value : String) : Prop := value = "-" ∨ value.toList.head? ≠ some '-'

/-- **The arguments that give a parameter a value.** -/
inductive Gives (p : Parameter) (value : String) : List String → Prop
  /-- Right behind the letter; an equals sign in front would not count to the value there. -/
  | joined (h : value.toList.head? ≠ some '=') : Gives p value [p.short ++ value]
  | shortEquals : Gives p value [p.short ++ "=" ++ value]
  | longEquals : Gives p value [p.long ++ "=" ++ value]
  | shortApart (h : Apart value) : Gives p value [p.short, value]
  | longApart (h : Apart value) : Gives p value [p.long, value]

/-- The values that a parameter admits, with the settings that they make: every path but the empty one, and the texts
of levels. -/
inductive Admits : Parameter → String → Setting → Prop
  | output {path : String} (h : path ≠ "") : Admits .output path (.output path)
  | logLevel {text : String} {level : LogLevel} (h : LogLevel.ofText? text = some level) :
      Admits .logLevel text (.logLevel level)

/-- Arguments that are a row of occurrences, and the settings made by these. -/
inductive Occurrences : List String → List Setting → Prop
  | nil : Occurrences [] []
  | cons {p : Parameter} {value : String} {setting : Setting} {arguments rest : List String}
      {settings : List Setting} (hgives : Gives p value arguments) (hadmits : Admits p value setting)
      (hrest : Occurrences rest settings) : Occurrences (arguments ++ rest) (setting :: settings)

/-- A row of occurrences, and then perhaps two dashes. -/
def Row (arguments : List String) (settings : List Setting) : Prop :=
  Occurrences arguments settings ∨ ∃ options, arguments = options ++ ["--"] ∧ Occurrences options settings

/-- **The arguments that spell some settings**: a row with an occurrence for each, no parameter twice. -/
structure Spells (arguments : List String) (settings : List Setting) : Prop where
  row : Row arguments settings
  once : (settings.map Setting.parameter).Nodup

/-- The path and the level that some settings ask for: those set, or else the default path and warnings. -/
structure Asks (settings : List Setting) (path : String) (level : LogLevel) : Prop where
  path : .output path ∈ settings ∨ path = Generation.defaultPath ∧ ∀ other, .output other ∉ settings
  level : .logLevel level ∈ settings ∨ level = .warn ∧ ∀ other, .logLevel other ∉ settings

theorem Row.cons {p : Parameter} {value : String} {setting : Setting} {arguments rest : List String}
    {settings : List Setting} (hrow : Row rest settings) (hgives : Gives p value arguments)
    (hadmits : Admits p value setting) : Row (arguments ++ rest) (setting :: settings) := by
  rcases hrow with hrow | ⟨options, rfl, hrow⟩
  · exact Or.inl (.cons hgives hadmits hrow)
  · exact Or.inr ⟨arguments ++ options, by rw [List.append_assoc], .cons hgives hadmits hrow⟩

/-! ## Settings -/

theorem Admits.parameter {p : Parameter} {value : String} {setting : Setting} (h : Admits p value setting) :
    setting.parameter = p := by
  cases h <;> rfl

theorem ofValue_eq_ok_iff {p : Parameter} {value : String} {setting : Setting} :
    Setting.ofValue p value = .ok setting ↔ Admits p value setting := by
  constructor
  · intro h
    cases p with
    | output =>
      simp only [Setting.ofValue, String.isEmpty_iff] at h
      split at h
      · cases h
      · rename_i hne
        cases h
        exact .output hne
    | logLevel =>
      simp only [Setting.ofValue] at h
      split at h
      · rename_i hlevel
        cases h
        exact .logLevel hlevel
      · cases h
  · intro h
    cases h with
    | output h => simp [Setting.ofValue, String.isEmpty_iff, h]
    | logLevel h => simp [Setting.ofValue, h]

theorem settle_eq_ok_iff {settings after : List Setting} {p : Parameter} {value : String} :
    settle settings ⟨p, some value⟩ = .ok after ↔
      p ∉ settings.map Setting.parameter ∧ ∃ setting, Admits p value setting ∧ after = settings ++ [setting] := by
  simp only [settle]
  split
  · rename_i htwice
    exact ⟨nofun, fun h => absurd htwice h.1⟩
  · rename_i hnew
    simp only [← ofValue_eq_ok_iff]
    cases Setting.ofValue p value with
    | error e => exact ⟨nofun, fun ⟨_, _, h, _⟩ => nomatch h⟩
    | ok setting =>
      constructor
      · intro h
        cases h
        exact ⟨hnew, setting, rfl, rfl⟩
      · rintro ⟨-, _, ⟨⟩, rfl⟩
        rfl

theorem asks_pathOf_levelOf (settings : List Setting) :
    Asks settings (State.pathOf settings) (State.levelOf settings) := by
  induction settings with
  | nil => exact ⟨Or.inr ⟨rfl, nofun⟩, Or.inr ⟨rfl, nofun⟩⟩
  | cons setting rest ih =>
    cases setting with
    | output path =>
      refine ⟨Or.inl (List.mem_cons_self ..), ?_⟩
      have hlevel : State.levelOf (.output path :: rest) = State.levelOf rest := rfl
      simpa [hlevel] using ih.level
    | logLevel level =>
      refine ⟨?_, Or.inl (List.mem_cons_self ..)⟩
      have hpath : State.pathOf (.logLevel level :: rest) = State.pathOf rest := rfl
      simpa [hpath] using ih.path

/-- Settings of different parameters ask for one path and one level. -/
theorem Asks.unique {settings : List Setting} (honce : (settings.map Setting.parameter).Nodup)
    {path path' : String} {level level' : LogLevel} (h : Asks settings path level)
    (h' : Asks settings path' level') : path = path' ∧ level = level' := by
  have heq := List.inj_on_of_nodup_map honce
  constructor
  · rcases h.path with hmem | ⟨rfl, hnone⟩ <;> rcases h'.path with hmem' | ⟨rfl, hnone'⟩
    · exact Setting.output.inj (heq hmem hmem' rfl)
    · exact absurd hmem (hnone' _)
    · exact absurd hmem' (hnone _)
    · rfl
  · rcases h.level with hmem | ⟨rfl, hnone⟩ <;> rcases h'.level with hmem' | ⟨rfl, hnone'⟩
    · exact Setting.logLevel.inj (heq hmem hmem' rfl)
    · exact absurd hmem (hnone' _)
    · exact absurd hmem' (hnone _)
    · rfl

theorem Asks.perm {settings others : List Setting} (hperm : settings.Perm others) {path : String}
    {level : LogLevel} (h : Asks settings path level) : Asks others path level := by
  obtain ⟨hpath, hlevel⟩ := h
  simp only [hperm.mem_iff] at hpath hlevel
  exact ⟨hpath, hlevel⟩

theorem once_append_singleton {before : List Setting} {setting : Setting} :
    ((before ++ [setting]).map Setting.parameter).Nodup ↔
      (before.map Setting.parameter).Nodup ∧ setting.parameter ∉ before.map Setting.parameter := by
  rw [List.map_append, List.map_singleton, List.nodup_append]
  constructor
  · rintro ⟨honce, -, hapart⟩
    exact ⟨honce, fun hmem => hapart _ hmem _ (List.mem_singleton_self _) rfl⟩
  · rintro ⟨honce, hnew⟩
    refine ⟨honce, List.nodup_singleton _, fun p hp q hq heq => hnew ?_⟩
    rwa [← List.mem_singleton.mp hq, ← heq]

/-! ## The forms of arguments -/

theorem toList_short (p : Parameter) : p.short.toList = ['-', Switch.letter (.parameter p)] := by
  cases p <;> rfl

theorem toList_long (p : Parameter) : p.long.toList = '-' :: '-' :: Switch.longName (.parameter p) := by
  cases p <;> rfl

theorem ofText_short (p : Parameter) (rest : List Char) :
    Argument.ofText (p.short.toList ++ rest) = .short (Switch.letter (.parameter p)) rest := by
  cases p <;> rfl

theorem ofText_long (p : Parameter) : Argument.ofText p.long.toList = .long (Switch.longName (.parameter p)) none := by
  cases p <;> rfl

theorem ofText_longEquals (p : Parameter) (value : List Char) :
    Argument.ofText (p.long.toList ++ '=' :: value) = .long (Switch.longName (.parameter p)) (some value) := by
  cases p <;> rfl

theorem ofText_apart {value : String} (h : Apart value) : Argument.ofText value.toList = .plain := by
  rcases h with rfl | h
  · rfl
  · unfold Argument.ofText
    split <;> simp_all

theorem eq_of_ofText_ending {text : List Char} (h : Argument.ofText text = .ending) : text = ['-', '-'] := by
  unfold Argument.ofText at h
  split at h
  · rfl
  all_goals cases h

theorem eq_of_ofText_short {text rest : List Char} {letter : Char} (h : Argument.ofText text = .short letter rest) :
    text = '-' :: letter :: rest := by
  unfold Argument.ofText at h
  split at h
  case h_3 =>
    cases h
    rfl
  all_goals cases h

theorem eq_of_ofText_long {text name : List Char} {value? : Option (List Char)}
    (h : Argument.ofText text = .long name value?) :
    text = '-' :: '-' :: name ++ value?.elim [] ('=' :: ·) := by
  unfold Argument.ofText at h
  split at h
  case h_2 text _ =>
    cases h
    have hsplit := List.takeWhile_append_dropWhile (p := (· ≠ '=')) (l := text)
    cases hbehind : text.dropWhile (· ≠ '=') with
    | nil =>
      rw [hbehind] at hsplit
      simpa [hbehind] using hsplit.symm
    | cons c value =>
      have hc := List.head?_dropWhile_not (· ≠ '=') text
      rw [hbehind] at hsplit hc
      have heq : c = '=' := by simpa using hc
      subst heq
      simpa [hbehind] using hsplit.symm
  all_goals cases h

theorem apart_of_ofText_plain {value : String} (h : Argument.ofText value.toList = .plain) : Apart value := by
  unfold Argument.ofText at h
  split at h
  case h_4 hending hlong hshort =>
    by_cases hdash : value.toList = ['-']
    · exact Or.inl (String.toList_inj.mp hdash)
    · refine Or.inr fun hhead => ?_
      cases htext : value.toList with
      | nil =>
        rw [htext] at hhead
        cases hhead
      | cons c rest =>
        rw [htext] at hhead
        cases hhead
        cases rest with
        | nil => exact hdash htext
        | cons letter rest => exact hshort letter rest htext
  all_goals cases h

theorem longName_of_ofLongName? {name : List Char} {s : Switch} (h : Switch.ofLongName? name = some s) :
    name = s.longName := by
  have heq := List.find?_some h
  exact (eq_of_beq heq).symm

theorem letter_of_ofLetter? {letter : Char} {s : Switch} (h : Switch.ofLetter? letter = some s) :
    letter = s.letter := by
  have heq := List.find?_some h
  exact (eq_of_beq heq).symm

/-! ## Reading one argument -/

theorem ofLetter?_letter (s : Switch) : Switch.ofLetter? s.letter = some s := by
  rcases s with (_ | _) | _ <;> rfl

theorem ofLongName?_longName (s : Switch) : Switch.ofLongName? s.longName = some s := by
  rcases s with (_ | _) | _ <;> rfl

namespace State
variable {s next : State} {settings after : List Setting} {p : Parameter}

/-- A parameter waits for its value. -/
def waiting (settings : List Setting) (p : Parameter) : State := ⟨settings, some ⟨p, none⟩, false⟩

/-- **Between two occurrences**: the settings, the last of them included, are complete and valid. -/
structure Between (s : State) (settings : List Setting) : Prop where
  settled : s.settled = .ok settings
  going : s.ended = false

/-- A pending value is not valid, and cannot be exchanged for another. -/
structure Doomed (s : State) : Prop where
  invalid : ∃ e, s.settled = .error e
  supplied : ∀ p, s.pending? ≠ some ⟨p, none⟩

theorem between_start : Between start [] := ⟨rfl, rfl⟩

theorem between_complete (settings : List Setting) : Between ⟨settings, none, false⟩ settings := ⟨rfl, rfl⟩

theorem between_pending {value : String} (h : settle settings ⟨p, some value⟩ = .ok after) :
    Between ⟨settings, some ⟨p, some value⟩, false⟩ after := ⟨h, rfl⟩

theorem Between.supplied (b : Between s settings) (p : Parameter) : s.pending? ≠ some ⟨p, none⟩ := by
  intro h
  have hsettled := b.settled
  unfold State.settled at hsettled
  rw [h] at hsettled
  cases hsettled

theorem Between.await (b : Between s settings) (p : Parameter) : s.await p = .ok (waiting settings p) := by
  rw [State.await, b.settled, b.going]
  rfl

theorem Between.attach (b : Between s settings) (p : Parameter) (value : List Char) :
    s.attach p value = (settle settings ⟨p, some (String.ofList value)⟩).map fun after => ⟨after, none, false⟩ := by
  rw [State.attach, b.settled, b.going]
  cases h : settle settings ⟨p, some (String.ofList value)⟩ <;>
    simp [h, bind, Except.bind, pure, Except.pure, Except.map]

theorem read_of_going (h : s.ended = false) (argument : String) :
    s.read argument = match Argument.ofText argument.toList with
      | .ending => .ok { s with ended := true }
      | .long name value? => s.readLong name value?
      | .short letter rest => s.readShort letter rest
      | .plain => s.readPlain argument := by
  rw [read, h]
  rfl

/-- An argument that begins with the letter of a parameter brings a value, unless the letter is all there is. -/
theorem read_short (h : s.ended = false) (p : Parameter) (rest : String) :
    s.read (p.short ++ rest) = match rest.toList with
      | [] => (s.await p).mapError .refused
      | '=' :: value => (s.attach p value).mapError .refused
      | value => (s.attach p value).mapError .refused := by
  rw [read_of_going h, String.toList_append, ofText_short]
  simp only [readShort, ofLetter?_letter]
  split <;> split <;> simp_all

theorem read_long (h : s.ended = false) (p : Parameter) : s.read p.long = (s.await p).mapError .refused := by
  rw [read_of_going h, ofText_long]
  simp only [readLong, ofLongName?_longName]

theorem read_longEquals (h : s.ended = false) (p : Parameter) (value : String) :
    s.read (p.long ++ "=" ++ value) = (s.attach p value.toList).mapError .refused := by
  have htext : (p.long ++ "=" ++ value).toList = p.long.toList ++ '=' :: value.toList := by simp
  rw [read_of_going h, htext, ofText_longEquals]
  simp only [readLong, ofLongName?_longName]

theorem read_ending (h : s.ended = false) : s.read "--" = .ok { s with ended := true } := by
  rw [read_of_going h]
  rfl

theorem read_apart (h : s.ended = false) {value : String} (hvalue : Apart value) :
    s.read value = s.readPlain value := by
  rw [read_of_going h, ofText_apart hvalue]

/-- The name of a parameter alone makes it wait for its value. -/
theorem Between.read_name (b : Between s settings) {argument : String} (h : argument = p.short ∨ argument = p.long) :
    s.read argument = .ok (waiting settings p) := by
  rcases h with rfl | rfl
  · have hread := read_short b.going p ""
    rw [String.append_empty] at hread
    rw [hread, b.await]
    rfl
  · rw [read_long b.going, b.await]
    rfl

/-- **Every argument is of one of these forms.**  All others are help or no option, and decide at once. -/
theorem argument_forms (argument : String) :
    argument = "--" ∨ Apart argument ∨ (∃ p rest, argument = Parameter.short p ++ rest) ∨
      (∃ p, argument = Parameter.long p) ∨ (∃ p value, argument = Parameter.long p ++ "=" ++ value) ∨
      ∀ s : State, s.ended = false →
        s.read argument = .error s.askHelp ∨ ∃ e, s.read argument = .error (.refused e) := by
  cases hform : Argument.ofText argument.toList with
  | ending => exact Or.inl (String.toList_inj.mp (eq_of_ofText_ending hform))
  | plain => exact Or.inr (Or.inl (apart_of_ofText_plain hform))
  | short letter rest =>
    refine Or.inr (Or.inr ?_)
    have hargument := eq_of_ofText_short hform
    cases hletter : Switch.ofLetter? letter with
    | some found =>
      cases found with
      | parameter p =>
        rw [letter_of_ofLetter? hletter] at hargument
        exact Or.inl ⟨p, String.ofList rest, String.toList_inj.mp (by simp [hargument, toList_short])⟩
      | help =>
        refine Or.inr (Or.inr (Or.inr fun s h => Or.inl ?_))
        rw [read_of_going h, hform]
        simp only [readShort, hletter]
    | none =>
      refine Or.inr (Or.inr (Or.inr fun s h => Or.inr ⟨.unexpectedArgument (String.ofList ['-', letter]), ?_⟩))
      rw [read_of_going h, hform]
      simp only [readShort, hletter]
  | long name value? =>
    refine Or.inr (Or.inr (Or.inr ?_))
    have hargument := eq_of_ofText_long hform
    cases hname : Switch.ofLongName? name with
    | some found =>
      rw [longName_of_ofLongName? hname] at hargument
      cases found with
      | parameter p =>
        cases value? with
        | none => exact Or.inl ⟨p, String.toList_inj.mp (by simp [hargument, toList_long])⟩
        | some value =>
          exact Or.inr (Or.inl ⟨p, String.ofList value, String.toList_inj.mp (by simp [hargument, toList_long])⟩)
      | help =>
        refine Or.inr (Or.inr fun s h => ?_)
        rw [read_of_going h, hform]
        simp only [readLong, hname]
        cases value? with
        | none => exact Or.inl rfl
        | some value => exact Or.inr ⟨_, rfl⟩
    | none =>
      refine Or.inr (Or.inr fun s h => Or.inr ⟨s.unknown name, ?_⟩)
      rw [read_of_going h, hform]
      simp only [readLong, hname]

/-- A parameter that brings a value leads to the settings with this value, or is refused. -/
theorem Between.eq_of_attach (b : Between s settings) {value : String}
    (h : (s.attach p value.toList).mapError Invocation.refused = .ok next) :
    ∃ after, settle settings ⟨p, some value⟩ = .ok after ∧ next = ⟨after, none, false⟩ := by
  rw [b.attach, String.ofList_toList] at h
  cases hsettle : settle settings ⟨p, some value⟩ with
  | error e =>
    rw [hsettle] at h
    cases h
  | ok after =>
    rw [hsettle] at h
    cases h
    exact ⟨after, rfl, rfl⟩

/-- **What can be read between two occurrences**: the end of the options, a parameter with its value, or a
parameter that waits for one. -/
theorem Between.read_cases (b : Between s settings) {argument : String} (h : s.read argument = .ok next) :
    argument = "--" ∧ next = { s with ended := true } ∨
      (∃ p value after, Gives p value [argument] ∧ settle settings ⟨p, some value⟩ = .ok after ∧
        next = ⟨after, none, false⟩) ∨
      ∃ p, (argument = p.short ∨ argument = p.long) ∧ next = waiting settings p := by
  rcases argument_forms argument with rfl | hplain | ⟨p, rest, rfl⟩ | ⟨p, rfl⟩ | ⟨p, value, rfl⟩ | hother
  · rw [read_ending b.going] at h
    cases h
    exact Or.inl ⟨rfl, rfl⟩
  · rw [read_apart b.going hplain, readPlain] at h
    split at h
    · rename_i p hpending
      exact absurd hpending (b.supplied p)
    · cases h
  · rw [read_short b.going] at h
    split at h
    · rename_i hempty
      rw [b.await] at h
      cases h
      exact Or.inr (Or.inr ⟨p, Or.inl (by simp [String.toList_eq_nil_iff.mp hempty]), rfl⟩)
    · rename_i value hequals
      have hattach : (s.attach p (String.ofList value).toList).mapError Invocation.refused = .ok next := by
        rwa [String.toList_ofList]
      obtain ⟨after, hsettle, hnext⟩ := b.eq_of_attach hattach
      have hrest : rest = "=" ++ String.ofList value := String.toList_inj.mp (by simp [hequals])
      rw [hrest, ← String.append_assoc]
      exact Or.inr (Or.inl ⟨p, _, after, .shortEquals, hsettle, hnext⟩)
    · rename_i hempty hequals
      obtain ⟨after, hsettle, hnext⟩ := b.eq_of_attach h
      refine Or.inr (Or.inl ⟨p, rest, after, .joined fun hhead => ?_, hsettle, hnext⟩)
      obtain ⟨value, hvalue⟩ := List.head?_eq_some_iff.mp hhead
      exact hequals value hvalue
  · rw [read_long b.going, b.await] at h
    cases h
    exact Or.inr (Or.inr ⟨p, Or.inr rfl, rfl⟩)
  · rw [read_longEquals b.going] at h
    obtain ⟨after, hsettle, hnext⟩ := b.eq_of_attach h
    exact Or.inr (Or.inl ⟨p, value, after, .longEquals, hsettle, hnext⟩)
  · rcases hother s b.going with hread | ⟨e, hread⟩
    · cases hread.symm.trans h
    · cases hread.symm.trans h

/-- **What a parameter takes that waits for its value.** -/
theorem waiting_read_cases {argument : String} (h : (waiting settings p).read argument = .ok next) :
    argument = "--" ∧ next = { waiting settings p with ended := true } ∨
      Apart argument ∧ next = ⟨settings, some ⟨p, some argument⟩, false⟩ := by
  rcases argument_forms argument with rfl | hplain | ⟨q, rest, rfl⟩ | ⟨q, rfl⟩ | ⟨q, value, rfl⟩ | hother
  · rw [read_ending rfl] at h
    cases h
    exact Or.inl ⟨rfl, rfl⟩
  · rw [read_apart rfl hplain] at h
    cases h
    exact Or.inr ⟨hplain, rfl⟩
  · rw [read_short rfl] at h
    split at h <;> cases h
  · rw [read_long rfl] at h
    cases h
  · rw [read_longEquals rfl] at h
    cases h
  · rcases hother (waiting settings p) rfl with hread | ⟨e, hread⟩
    · cases hread.symm.trans h
    · cases hread.symm.trans h

/-! ## Reading all arguments -/

theorem readAll_of_ended (h : s.ended = true) (argument : String) (rest : List String) :
    s.readAll (argument :: rest) = .refused (.unexpectedArgument argument) := by
  rw [readAll, read, if_pos h]

theorem Doomed.read (d : Doomed s) (argument : String) :
    s.read argument = .ok { s with ended := true } ∨ ∃ e, s.read argument = .error (.refused e) := by
  obtain ⟨e, he⟩ := d.invalid
  cases hended : s.ended with
  | true => exact Or.inr ⟨.unexpectedArgument argument, by rw [State.read, if_pos hended]⟩
  | false =>
    have hawait : ∀ p, s.await p = .error e := by
      intro p
      rw [State.await, he]
      rfl
    have hattach : ∀ p value, s.attach p value = .error e := by
      intro p value
      rw [State.attach, he]
      rfl
    rcases argument_forms argument with rfl | hplain | ⟨p, rest, rfl⟩ | ⟨p, rfl⟩ | ⟨p, value, rfl⟩ | hother
    · exact Or.inl (read_ending hended)
    · refine Or.inr ⟨.unexpectedArgument argument, ?_⟩
      rw [read_apart hended hplain, readPlain]
      split
      · rename_i p hpending
        exact absurd hpending (d.supplied p)
      · rfl
    · refine Or.inr ⟨e, ?_⟩
      rw [read_short hended]
      split
      · rw [hawait]
        rfl
      · rw [hattach]
        rfl
      · rw [hattach]
        rfl
    · exact Or.inr ⟨e, by rw [read_long hended, hawait]; rfl⟩
    · exact Or.inr ⟨e, by rw [read_longEquals hended, hattach]; rfl⟩
    · rcases hother s hended with hread | hread
      · refine Or.inr ⟨e, ?_⟩
        rw [hread, askHelp, he]
      · exact Or.inr hread

/-- **A pending value that is not valid is never forgiven**, whatever arguments follow. -/
theorem Doomed.readAll (d : Doomed s) (arguments : List String) : ∃ e, s.readAll arguments = .refused e := by
  induction arguments generalizing s with
  | nil =>
    obtain ⟨e, he⟩ := d.invalid
    exact ⟨e, by rw [State.readAll, finish, he]⟩
  | cons argument rest ih =>
    rw [State.readAll]
    rcases d.read argument with hread | ⟨e, hread⟩
    · rw [hread]
      exact ih ⟨d.invalid, d.supplied⟩
    · rw [hread]
      exact ⟨e, rfl⟩

/-- The letter of a parameter alone gives it the empty text at most. -/
theorem eq_empty_of_gives_short {value : String} (hgives : Gives p value [p.short]) : value = "" := by
  generalize hoccurrence : [p.short] = occurrence at hgives
  have htexts := congrArg (List.map String.toList) hoccurrence
  cases hgives with
  | joined => simpa using htexts
  | shortEquals => simp at htexts
  | longEquals => cases p <;> simp [Parameter.short, Parameter.long] at htexts
  | shortApart | longApart => cases congrArg List.length hoccurrence

/-- **An occurrence is read in one of two ways**: as one argument that brings the value with it, or as two that leave
the value pending. -/
theorem Between.read_occurrence (b : Between s settings) {value : String} {occurrence : List String}
    (hgives : Gives p value occurrence) (hsupplied : occurrence ≠ [p.short]) :
    (∃ argument, occurrence = [argument] ∧ s.read argument = (s.attach p value.toList).mapError .refused) ∨
      ∀ rest, s.readAll (occurrence ++ rest) = readAll ⟨settings, some ⟨p, some value⟩, false⟩ rest := by
  have hapart : ∀ name, (name = p.short ∨ name = p.long) → Apart value →
      ∀ rest, s.readAll ([name, value] ++ rest) = readAll ⟨settings, some ⟨p, some value⟩, false⟩ rest := by
    intro name hname hvalue rest
    rw [List.cons_append, State.readAll, b.read_name hname, List.singleton_append]
    simp only [State.readAll, read_apart (show (waiting settings p).ended = false from rfl) hvalue]
    rfl
  cases hgives with
  | joined hequals =>
    refine Or.inl ⟨_, rfl, ?_⟩
    rw [read_short b.going]
    split
    · rename_i hempty
      rw [String.toList_eq_nil_iff.mp hempty, String.append_empty] at hsupplied
      exact absurd rfl hsupplied
    · rename_i hvalue
      rw [hvalue] at hequals
      exact absurd rfl hequals
    · rfl
  | shortEquals =>
    refine Or.inl ⟨_, rfl, ?_⟩
    have hbehind : ("=" ++ value).toList = '=' :: value.toList := by simp
    rw [String.append_assoc, read_short b.going, hbehind]
    rfl
  | longEquals => exact Or.inl ⟨_, rfl, read_longEquals b.going p value⟩
  | shortApart hvalue => exact Or.inr (hapart _ (Or.inl rfl) hvalue)
  | longApart hvalue => exact Or.inr (hapart _ (Or.inr rfl) hvalue)

/-- An occurrence leads from the settings before it to those with its own. -/
theorem Between.readAll_gives (b : Between s settings) {value : String} {arguments : List String}
    (hgives : Gives p value arguments) (hsettle : settle settings ⟨p, some value⟩ = .ok after) :
    ∃ next, Between next after ∧ ∀ rest, s.readAll (arguments ++ rest) = next.readAll rest := by
  have hsupplied : arguments ≠ [p.short] := by
    -- the letter alone would wait for a value, but no parameter admits the empty one
    rintro rfl
    obtain ⟨-, setting, hadmits, -⟩ := settle_eq_ok_iff.mp hsettle
    rw [eq_empty_of_gives_short hgives] at hadmits
    cases hadmits with
    | output h => exact absurd rfl h
    | logLevel h => cases h
  rcases b.read_occurrence hgives hsupplied with ⟨argument, rfl, hread⟩ | hpending
  · refine ⟨_, between_complete after, fun rest => ?_⟩
    rw [List.singleton_append, State.readAll, hread, b.attach, String.ofList_toList, hsettle]
    rfl
  · exact ⟨_, between_pending hsettle, hpending⟩

/-- **An occurrence with a value that is refused is never forgiven**, whatever arguments follow. -/
theorem Between.refused_of_gives (b : Between s settings) {value : String} {occurrence : List String}
    (hgives : Gives p value occurrence) (hsupplied : occurrence ≠ [p.short]) {e : UsageError}
    (hsettle : settle settings ⟨p, some value⟩ = .error e) :
    s.readAll occurrence = .refused e ∧ ∀ rest, ∃ e', s.readAll (occurrence ++ rest) = .refused e' := by
  rcases b.read_occurrence hgives hsupplied with ⟨argument, rfl, hread⟩ | hpending
  · have hrefused : ∀ rest, s.readAll ([argument] ++ rest) = .refused e := by
      intro rest
      rw [List.singleton_append, State.readAll, hread, b.attach, String.ofList_toList, hsettle]
      rfl
    exact ⟨hrefused [], fun rest => ⟨e, hrefused rest⟩⟩
  · have hdoomed : Doomed ⟨settings, some ⟨p, some value⟩, false⟩ := ⟨⟨e, hsettle⟩, nofun⟩
    constructor
    · have hread := hpending []
      rw [List.append_nil] at hread
      rw [hread, State.readAll, finish]
      simp only [State.settled, hsettle]
    · intro rest
      rw [hpending]
      exact hdoomed.readAll rest

/-- **A row of occurrences leads to the settings with its own**, whatever stands behind the row. -/
theorem Between.readAll_row {before more : List Setting} (b : Between s before) {arguments : List String}
    (h : Occurrences arguments more) (honce : ((before ++ more).map Setting.parameter).Nodup) :
    ∃ next, Between next (before ++ more) ∧ ∀ rest, s.readAll (arguments ++ rest) = next.readAll rest := by
  induction h generalizing s before with
  | nil =>
    rw [List.append_nil]
    exact ⟨s, b, fun _ => rfl⟩
  | @cons p value setting _ _ more hgives hadmits _ ih =>
    rw [List.append_cons] at honce ⊢
    have hnew : p ∉ before.map Setting.parameter := by
      have hbefore : ((before ++ [setting]).map Setting.parameter).Nodup := by
        rw [List.map_append] at honce
        exact (List.nodup_append.mp honce).1
      rw [← hadmits.parameter]
      exact (once_append_singleton.mp hbefore).2
    obtain ⟨between, hbetween, hread⟩ :=
      b.readAll_gives hgives (settle_eq_ok_iff.mpr ⟨hnew, setting, hadmits, rfl⟩)
    obtain ⟨next, hnext, hrest⟩ := ih hbetween honce
    exact ⟨next, hnext, fun rest => by rw [List.append_assoc, hread, hrest]⟩

theorem Between.readAll_occurrences {before more : List Setting} (b : Between s before) {arguments : List String}
    (h : Occurrences arguments more) (honce : ((before ++ more).map Setting.parameter).Nodup)
    {tail : List String} (htail : tail = [] ∨ tail = ["--"]) :
    s.readAll (arguments ++ tail) = .run (pathOf (before ++ more)) (levelOf (before ++ more)) := by
  obtain ⟨next, hnext, hread⟩ := b.readAll_row h honce
  rw [hread]
  rcases htail with rfl | rfl
  · rw [State.readAll, finish, hnext.settled]
  · have hsettled : { next with ended := true }.settled = .ok (before ++ more) := hnext.settled
    rw [State.readAll, read_ending hnext.going]
    simp only [State.readAll, finish, hsettled]

theorem refused_of_mapError {α : Type} {x : Except UsageError α} {decided : Invocation}
    (h : x.mapError Invocation.refused = .error decided) : ∃ e, decided = .refused e := by
  cases x with
  | error e =>
    cases h
    exact ⟨e, rfl⟩
  | ok => cases h

/-- An argument that decides shows help or is refused. -/
theorem decided_of_read {argument : String} {decided : Invocation} (h : s.read argument = .error decided) :
    decided = s.askHelp ∨ ∃ e, decided = .refused e := by
  cases hended : s.ended with
  | true =>
    rw [read, if_pos hended] at h
    cases h
    exact Or.inr ⟨_, rfl⟩
  | false =>
    rcases argument_forms argument with rfl | hplain | ⟨p, rest, rfl⟩ | ⟨p, rfl⟩ | ⟨p, value, rfl⟩ | hother
    · rw [read_ending hended] at h
      cases h
    · rw [read_apart hended hplain, readPlain] at h
      split at h <;> cases h
      exact Or.inr ⟨_, rfl⟩
    · rw [read_short hended] at h
      split at h <;> exact Or.inr (refused_of_mapError h)
    · rw [read_long hended] at h
      exact Or.inr (refused_of_mapError h)
    · rw [read_longEquals hended] at h
      exact Or.inr (refused_of_mapError h)
    · rcases hother s hended with hread | ⟨e, hread⟩
      · cases hread.symm.trans h
        exact Or.inl rfl
      · cases hread.symm.trans h
        exact Or.inr ⟨e, rfl⟩

/-- No single argument decides for a run: all of them must have been read. -/
theorem readAll_eq_run {argument : String} {rest : List String} {path : String} {level : LogLevel}
    (h : s.readAll (argument :: rest) = .run path level) :
    ∃ next, s.read argument = .ok next ∧ next.readAll rest = .run path level := by
  rw [State.readAll] at h
  split at h
  · rename_i next hread
    exact ⟨next, hread, h⟩
  · rename_i decided hread
    subst h
    rcases decided_of_read hread with hhelp | ⟨e, he⟩
    · unfold askHelp at hhelp
      split at hhelp <;> cases hhelp
    · cases he

/-- Behind the end of the options a run can only find the end of the arguments. -/
theorem eq_nil_of_ended (hended : s.ended = true) {rest : List String} {path : String} {level : LogLevel}
    (h : s.readAll rest = .run path level) : rest = [] := by
  cases rest with
  | nil => rfl
  | cons argument rest =>
    rw [readAll_of_ended hended] at h
    cases h

theorem settled_of_finish {path : String} {level : LogLevel} (h : s.finish = .run path level) :
    ∃ settings, s.settled = .ok settings ∧ path = pathOf settings ∧ level = levelOf settings := by
  unfold finish at h
  split at h
  · rename_i settings hsettled
    cases h
    exact ⟨settings, hsettled, rfl, rfl⟩
  · cases h

theorem Between.asked_of_finish (b : Between s settings) {path : String} {level : LogLevel}
    (h : s.finish = .run path level) : path = pathOf settings ∧ level = levelOf settings := by
  obtain ⟨found, hfound, hpath, hlevel⟩ := settled_of_finish h
  cases b.settled.symm.trans hfound
  exact ⟨hpath, hlevel⟩

/-- A parameter that still waits at the end is an error. -/
theorem waiting_finish_ne_run {ended : Bool} {path : String} {level : LogLevel} :
    finish { waiting settings p with ended := ended } ≠ .run path level := by
  intro h
  obtain ⟨_, hsettled, -⟩ := settled_of_finish h
  cases hsettled

/-- Arguments that add new parameters to some settings, and what all of these ask for. -/
def Completes (before : List Setting) (arguments : List String) (path : String) (level : LogLevel) : Prop :=
  ∃ more, Row arguments more ∧ ((before ++ more).map Setting.parameter).Nodup ∧
    path = pathOf (before ++ more) ∧ level = levelOf (before ++ more)

theorem completes_of_row_nil {before : List Setting} {arguments : List String}
    (honce : (before.map Setting.parameter).Nodup) (hrow : Row arguments []) :
    Completes before arguments (pathOf before) (levelOf before) := by
  refine ⟨[], hrow, ?_, ?_, ?_⟩
  · rwa [List.append_nil]
  · rw [List.append_nil]
  · rw [List.append_nil]

theorem Completes.cons {before : List Setting} {value : String} {setting : Setting} {occurrence rest : List String}
    {path : String} {level : LogLevel} (h : Completes (before ++ [setting]) rest path level)
    (hgives : Gives p value occurrence) (hadmits : Admits p value setting) :
    Completes before (occurrence ++ rest) path level := by
  obtain ⟨more, hrow, honce, hpath, hlevel⟩ := h
  rw [List.append_assoc, List.singleton_append] at honce hpath hlevel
  exact ⟨setting :: more, hrow.cons hgives hadmits, honce, hpath, hlevel⟩

/-- **What is accepted between two occurrences is a row of occurrences**, with parameters that are new. -/
theorem Between.completes_of_readAll {before : List Setting} (b : Between s before)
    (honce : (before.map Setting.parameter).Nodup) {arguments : List String} {path : String} {level : LogLevel}
    (h : s.readAll arguments = .run path level) : Completes before arguments path level := by
  -- an occurrence may be two arguments, so the induction is on how many there are
  induction hlength : arguments.length using Nat.strongRecOn generalizing s before arguments with
  | _ n ih =>
    subst hlength
    -- behind an occurrence that has been read, the rest completes the settings
    have hbehind : ∀ {p value after next occurrence rest}, Gives p value occurrence →
        settle before ⟨p, some value⟩ = .ok after → Between next after → next.readAll rest = .run path level →
        rest.length < arguments.length → Completes before (occurrence ++ rest) path level := by
      intro p value after next occurrence rest hgives hsettle hnext hread hshorter
      obtain ⟨hnew, setting, hadmits, rfl⟩ := settle_eq_ok_iff.mp hsettle
      rw [← hadmits.parameter] at hnew
      have hrest := ih _ hshorter hnext (once_append_singleton.mpr ⟨honce, hnew⟩) hread rfl
      exact hrest.cons hgives hadmits
    cases arguments with
    | nil =>
      obtain ⟨rfl, rfl⟩ := b.asked_of_finish h
      exact completes_of_row_nil honce (Or.inl .nil)
    | cons argument rest =>
      obtain ⟨next, hread, hrest⟩ := readAll_eq_run h
      rcases b.read_cases hread with ⟨rfl, rfl⟩ | ⟨p, value, after, hgives, hsettle, rfl⟩ | ⟨p, hname, rfl⟩
      · obtain rfl := eq_nil_of_ended rfl hrest
        have hended : s.finish = .run path level := hrest
        obtain ⟨rfl, rfl⟩ := b.asked_of_finish hended
        exact completes_of_row_nil honce (Or.inr ⟨[], rfl, .nil⟩)
      · exact hbehind hgives hsettle (between_complete after) hrest (Nat.lt_succ_self _)
      · -- the parameter waits, so its value is the next argument
        cases rest with
        | nil => exact absurd hrest waiting_finish_ne_run
        | cons value rest =>
          obtain ⟨next, hread', hrest'⟩ := readAll_eq_run hrest
          rcases waiting_read_cases hread' with ⟨rfl, rfl⟩ | ⟨hapart, rfl⟩
          · obtain rfl := eq_nil_of_ended rfl hrest'
            exact absurd hrest' waiting_finish_ne_run
          · cases hsettle : settle before ⟨p, some value⟩ with
            | error e =>
              have hdoomed : Doomed ⟨before, some ⟨p, some value⟩, false⟩ := ⟨⟨e, hsettle⟩, nofun⟩
              obtain ⟨_, hrefused⟩ := hdoomed.readAll rest
              cases hrefused.symm.trans hrest'
            | ok after =>
              have hgives : Gives p value [argument, value] := by
                rcases hname with rfl | rfl
                · exact .shortApart hapart
                · exact .longApart hapart
              have hshorter : rest.length < (argument :: value :: rest).length := by
                simp only [List.length_cons]
                omega
              exact hbehind hgives hsettle (between_pending hsettle) hrest' hshorter

end State

/-! ## What is accepted -/

/-- **A list of arguments runs the program iff it spells settings that ask for that run.** -/
theorem ofArguments_eq_run_iff {arguments : List String} {path : String} {level : LogLevel} :
    Invocation.ofArguments arguments = .run path level ↔
      ∃ settings, Spells arguments settings ∧ Asks settings path level := by
  constructor
  · intro h
    obtain ⟨settings, hrow, honce, rfl, rfl⟩ := State.between_start.completes_of_readAll List.nodup_nil h
    exact ⟨settings, ⟨hrow, honce⟩, asks_pathOf_levelOf settings⟩
  · rintro ⟨settings, ⟨hrow, honce⟩, hasks⟩
    have hread : Invocation.ofArguments arguments =
        .run (State.pathOf settings) (State.levelOf settings) := by
      rcases hrow with hrow | ⟨options, rfl, hrow⟩
      · have h := State.between_start.readAll_occurrences hrow honce (Or.inl rfl)
        rwa [List.append_nil] at h
      · exact State.between_start.readAll_occurrences hrow honce (Or.inr rfl)
    obtain ⟨rfl, rfl⟩ := hasks.unique honce (asks_pathOf_levelOf settings)
    exact hread

/-- **The reader accepts exactly the grammar.**  A list of arguments is accepted iff it spells some settings; the run
is then for the path and at the level that these ask for. So the same settings in any spelling and in any order give
the same run, in every file system. -/
theorem accepts_exactly_grammar (arguments : List String) :
    ((∃ path level, Invocation.ofArguments arguments = .run path level) ↔
      ∃ settings, Spells arguments settings) ∧
    (∀ path level, Invocation.ofArguments arguments = .run path level ↔
      ∃ settings, Spells arguments settings ∧ Asks settings path level) ∧
    ∀ others settings settings', Spells arguments settings → Spells others settings' → settings.Perm settings' →
      Invocation.ofArguments arguments = Invocation.ofArguments others ∧
        ∀ fs noColor? time, run fs arguments noColor? time = run fs others noColor? time := by
  refine ⟨⟨?_, ?_⟩, fun _ _ => ofArguments_eq_run_iff, ?_⟩
  · rintro ⟨path, level, h⟩
    obtain ⟨settings, hspells, -⟩ := ofArguments_eq_run_iff.mp h
    exact ⟨settings, hspells⟩
  · rintro ⟨settings, hspells⟩
    exact ⟨_, _, ofArguments_eq_run_iff.mpr ⟨settings, hspells, asks_pathOf_levelOf settings⟩⟩
  · intro others settings settings' hspells hspells' hperm
    have hasks := asks_pathOf_levelOf settings
    have hrun := ofArguments_eq_run_iff.mpr ⟨settings, hspells, hasks⟩
    have hrun' := ofArguments_eq_run_iff.mpr ⟨settings', hspells', hasks.perm hperm⟩
    have heq := hrun.trans hrun'.symm
    exact ⟨heq, fun fs noColor? time => by rw [run, run, heq]⟩

theorem accepts_exactly_grammar_sample :
    (∃ settings, Spells ["-linfo", "--output", "-"] settings) ∧
      Spells ["-linfo", "--output", "-"] [.logLevel .info, .output "-"] ∧
      Spells ["-o=-", "--log-level", "003", "--"] [.output "-", .logLevel .info] ∧
      [Setting.logLevel .info, .output "-"].Perm [.output "-", .logLevel .info] ∧
      Invocation.ofArguments ["-linfo", "--output", "-"] =
        Invocation.ofArguments ["-o=-", "--log-level", "003", "--"] := by
  have hinfo : Gives .logLevel "info" ["-linfo"] := .joined (by decide)
  have hdash : Gives .output "-" ["-o=-"] := .shortEquals
  have hfirst : Spells ["-linfo", "--output", "-"] [.logLevel .info, .output "-"] :=
    ⟨Or.inl (.cons hinfo (.logLevel rfl) (.cons (.longApart (Or.inl rfl)) (.output (by decide)) .nil)), by decide⟩
  have hsecond : Spells ["-o=-", "--log-level", "003", "--"] [.output "-", .logLevel .info] :=
    ⟨Or.inr ⟨["-o=-", "--log-level", "003"], rfl, .cons hdash (.output (by decide))
      (.cons (.longApart (Or.inr (by decide))) (.logLevel rfl) .nil)⟩, by decide⟩
  have hperm : [Setting.logLevel .info, .output "-"].Perm [.output "-", .logLevel .info] := .swap _ _ []
  have h := accepts_exactly_grammar ["-linfo", "--output", "-"]
  exact ⟨h.1.mp ⟨"-", .info, rfl⟩, hfirst, hsecond, hperm, (h.2.2 _ _ _ hfirst hsecond hperm).1⟩

end CartridgeFixture.CommandLine
