import CartridgeFixture.Proofs.CommandLine.Outcomes

/-!
# Decisions are final

The reader goes through the arguments once, and whatever it has decided it never takes back. If it has decided on one
argument, no argument behind that one is read (`readAll_append`). If it has not, all arguments have led to a state, and
it depends on this state what those that follow can change (`readTo`):

* **between two occurrences** a request for help is heard, unless the options have been ended;
* a parameter that **waits** for its value is an error as things stand, but a value may follow (`Waits`);
* a pending value that is **not valid** is an error whatever follows (`Doomed.readAll`), and so is anything behind the
  end of the options.

There are no other states, so only the second of these can make accepted arguments out of refused ones
(`decides_left_to_right`).
-/
namespace CartridgeFixture.CommandLine

namespace State
variable {s next : State}

/-- **The state that arguments lead to**, if none of them decides. -/
def readTo (s : State) (arguments : List String) : Except Invocation State := arguments.foldlM read s

/-- **What has been decided stays so**: arguments that follow are read in the state that those before have led to, or
not at all. -/
theorem readAll_append (s : State) (front back : List String) :
    s.readAll (front ++ back) = match s.readTo front with
      | .ok next => next.readAll back
      | .error decided => decided := by
  induction front generalizing s with
  | nil => rfl
  | cons argument rest ih =>
    rw [List.cons_append, readAll, readTo, List.foldlM_cons]
    cases s.read argument with
    | error decided => rfl
    | ok next => exact ih next

theorem readAll_eq (s : State) (arguments : List String) :
    s.readAll arguments = match s.readTo arguments with
      | .ok next => next.finish
      | .error decided => decided := by
  have h := s.readAll_append arguments []
  rwa [List.append_nil] at h

theorem readTo_append_singleton_iff {front : List String} {argument : String} :
    s.readTo (front ++ [argument]) = .ok next ↔
      ∃ before, s.readTo front = .ok before ∧ before.read argument = .ok next := by
  unfold readTo
  rw [List.foldlM_append]
  cases List.foldlM read s front with
  | error decided => simp [bind, Except.bind]
  | ok before =>
    have hlast : List.foldlM read before [argument] = before.read argument := by
      rw [List.foldlM_cons]
      cases before.read argument <;> rfl
    simp [bind, Except.bind, hlast]

/-- An argument that decides shows help or is refused; the run of the program is decided at the end only. -/
theorem ne_run_of_readTo {arguments : List String} {decided : Invocation} (h : s.readTo arguments = .error decided)
    (path : String) (level : LogLevel) : decided ≠ .run path level := by
  rintro rfl
  have hrun : s.readAll arguments = .run path level := by rw [readAll_eq, h]
  induction arguments generalizing s with
  | nil => cases h
  | cons argument rest ih =>
    obtain ⟨next, hread, hrest⟩ := readAll_eq_run hrun
    rw [readTo, List.foldlM_cons, hread] at h
    exact ih h hrest

/-! ## The last argument that was read -/

theorem settled_of_await {p : Parameter} (h : (s.await p).mapError Invocation.refused = .ok next) :
    ∃ settings, s.settled = .ok settings ∧ next = ⟨settings, some ⟨p, none⟩, s.ended⟩ := by
  unfold await at h
  cases hsettled : s.settled with
  | error e =>
    rw [hsettled] at h
    cases h
  | ok settings =>
    rw [hsettled] at h
    cases h
    exact ⟨settings, rfl, rfl⟩

theorem of_attach {p : Parameter} {value : List Char} (h : (s.attach p value).mapError Invocation.refused = .ok next) :
    next.ended = s.ended ∧ next.pending? = none := by
  unfold attach at h
  cases hsettled : s.settled with
  | error e =>
    rw [hsettled] at h
    cases h
  | ok settings =>
    cases hsettle : settle settings ⟨p, some (String.ofList value)⟩ with
    | error e =>
      simp only [hsettled, hsettle, bind, Except.bind] at h
      cases h
    | ok after =>
      simp only [hsettled, hsettle, bind, Except.bind] at h
      cases h
      exact ⟨rfl, rfl⟩

/-- **What an argument does that does not decide**, whatever has been read before: it ends the options, it leaves no
parameter waiting, or it is the name of one that waits now, behind settings that are complete and valid. -/
theorem read_cases {argument : String} (h : s.read argument = .ok next) :
    s.ended = false ∧
      (argument = "--" ∧ next = { s with ended := true } ∨
        argument ≠ "--" ∧ next.ended = false ∧
          ((∀ p, next.pending? ≠ some ⟨p, none⟩) ∨
            ∃ p settings, (argument = p.short ∨ argument = p.long) ∧ s.settled = .ok settings ∧
              next = waiting settings p)) := by
  have hgoing : s.ended = false := by
    cases hended : s.ended with
    | false => rfl
    | true =>
      rw [read, if_pos hended] at h
      cases h
  refine ⟨hgoing, ?_⟩
  by_cases hending : argument = "--"
  · subst hending
    rw [read_ending hgoing] at h
    cases h
    exact Or.inl ⟨rfl, rfl⟩
  refine Or.inr ⟨hending, ?_⟩
  -- a parameter that brings its value leaves none waiting
  have hattached : ∀ {p value}, (s.attach p value).mapError Invocation.refused = .ok next →
      next.ended = false ∧ ∀ q, next.pending? ≠ some ⟨q, none⟩ := by
    intro p value hattach
    obtain ⟨hended, hnone⟩ := of_attach hattach
    refine ⟨hended.trans hgoing, fun q hq => ?_⟩
    cases hnone.symm.trans hq
  rcases argument_forms argument with hform | hplain | ⟨p, rest, rfl⟩ | ⟨p, rfl⟩ | ⟨p, value, rfl⟩ | hother
  · exact absurd hform hending
  · rw [read_apart hgoing hplain, readPlain] at h
    split at h
    · cases h
      refine ⟨hgoing, Or.inl fun q hq => ?_⟩
      cases hq
    · cases h
  · rw [read_short hgoing] at h
    split at h
    · rename_i hempty
      obtain ⟨settings, hsettled, rfl⟩ := settled_of_await h
      rw [String.toList_eq_nil_iff.mp hempty, String.append_empty, hgoing]
      exact ⟨rfl, Or.inr ⟨p, settings, Or.inl rfl, hsettled, rfl⟩⟩
    · exact (hattached h).imp_right Or.inl
    · exact (hattached h).imp_right Or.inl
  · rw [read_long hgoing] at h
    obtain ⟨settings, hsettled, rfl⟩ := settled_of_await h
    rw [hgoing]
    exact ⟨rfl, Or.inr ⟨p, settings, Or.inr rfl, hsettled, rfl⟩⟩
  · rw [read_longEquals hgoing] at h
    exact (hattached h).imp_right Or.inl
  · rcases hother s hgoing with hread | ⟨e, hread⟩
    · cases hread.symm.trans h
    · cases hread.symm.trans h

/-- The options have been ended iff two dashes are the last that was read. -/
theorem ended_iff_getLast? {arguments : List String} (h : start.readTo arguments = .ok s) :
    s.ended = true ↔ arguments.getLast? = some "--" := by
  rcases List.eq_nil_or_concat arguments with rfl | ⟨front, argument, rfl⟩
  · cases h
    simp [start]
  · rw [List.concat_eq_append] at h ⊢
    rw [List.getLast?_concat, Option.some_inj]
    obtain ⟨before, -, hread⟩ := readTo_append_singleton_iff.mp h
    obtain ⟨-, ⟨rfl, rfl⟩ | ⟨hne, hgoing, -⟩⟩ := read_cases hread
    · simp
    · simp [hne, hgoing]

/-- **An error as things stand** is one with any arguments behind, unless a parameter waits for its value. -/
theorem refused_of_invalid {e : UsageError} (h : s.settled = .error e)
    (hwaits : s.ended = true ∨ ∀ p, s.pending? ≠ some ⟨p, none⟩) (arguments : List String) :
    ∃ e', s.readAll arguments = .refused e' := by
  rcases hwaits with hended | hsupplied
  · cases arguments with
    | nil => exact ⟨e, by rw [readAll, finish, h]⟩
    | cons argument rest => exact ⟨_, readAll_of_ended hended argument rest⟩
  · have hdoomed : Doomed s := ⟨⟨e, h⟩, hsupplied⟩
    exact hdoomed.readAll arguments

theorem Between.readAll_help {settings : List Setting} (b : Between s settings) {argument : String}
    (h : argument = "-h" ∨ argument = "--help") (rest : List String) : s.readAll (argument :: rest) = .help := by
  have hread : s.read argument = .error s.askHelp := by
    rw [read_of_going b.going]
    rcases h with rfl | rfl
    · rfl
    · rfl
  rw [readAll, hread, askHelp, b.settled]

end State

/-! ## Decisions -/

section Reading
open State
variable {arguments : List String}

/-- Arguments decide on the way, or come to the state that they have led to. -/
theorem ofArguments_append (front back : List String) :
    Invocation.ofArguments (front ++ back) = match start.readTo front with
      | .ok s => s.readAll back
      | .error decided => decided :=
  start.readAll_append front back

theorem ofArguments_eq (arguments : List String) :
    Invocation.ofArguments arguments = match start.readTo arguments with
      | .ok s => s.finish
      | .error decided => decided :=
  start.readAll_eq arguments

/-- Help is shown because of an argument that asks for it, and never for want of arguments. -/
theorem readTo_of_help (h : Invocation.ofArguments arguments = .help) : start.readTo arguments = .error .help := by
  rw [ofArguments_eq] at h
  cases hread : start.readTo arguments with
  | error decided =>
    simp only [hread] at h
    rw [h]
  | ok s =>
    simp only [hread, finish] at h
    split at h <;> cases h

/-- Arguments are accepted iff they lead to a state in which all settings are complete and valid. -/
theorem accepted_iff : (∃ path, Generates arguments path) ↔
    ∃ s settings, start.readTo arguments = .ok s ∧ s.settled = .ok settings := by
  simp only [generates_iff, ofArguments_eq]
  constructor
  · rintro ⟨path, level, h⟩
    cases hread : start.readTo arguments with
    | error decided =>
      simp only [hread] at h
      exact absurd h (ne_run_of_readTo hread path level)
    | ok s =>
      simp only [hread] at h
      obtain ⟨settings, hsettled, -⟩ := settled_of_finish h
      exact ⟨s, settings, rfl, hsettled⟩
  · rintro ⟨s, settings, hread, hsettled⟩
    simp only [hread, finish, hsettled]
    exact ⟨_, _, rfl⟩

/-- **The last argument is a parameter that waits for its value**: those before it are accepted, and have not ended the
options. -/
def Waits (arguments : List String) : Prop :=
  ∃ front p, (arguments = front ++ [Parameter.short p] ∨ arguments = front ++ [Parameter.long p]) ∧
    (∃ path, Generates front path) ∧ front.getLast? ≠ some "--"

/-- Arguments wait iff they lead to a state in which a parameter waits and may still be given its value. -/
theorem waits_iff : Waits arguments ↔ ∃ settings p, start.readTo arguments = .ok (waiting settings p) := by
  constructor
  · rintro ⟨front, p, harguments, haccepted, hlast⟩
    obtain ⟨s, settings, hread, hsettled⟩ := accepted_iff.mp haccepted
    rw [Ne, ← ended_iff_getLast? hread, Bool.not_eq_true] at hlast
    have b : Between s settings := ⟨hsettled, hlast⟩
    refine ⟨settings, p, ?_⟩
    rcases harguments with rfl | rfl
    · exact readTo_append_singleton_iff.mpr ⟨s, hread, b.read_name (Or.inl rfl)⟩
    · exact readTo_append_singleton_iff.mpr ⟨s, hread, b.read_name (Or.inr rfl)⟩
  · rintro ⟨settings, p, hread⟩
    rcases List.eq_nil_or_concat arguments with rfl | ⟨front, argument, rfl⟩
    · cases hread
    · rw [List.concat_eq_append] at hread ⊢
      obtain ⟨before, hbefore, hlast⟩ := readTo_append_singleton_iff.mp hread
      -- of the three things that the last argument may have done, only a name leaves a parameter waiting
      obtain ⟨hgoing, ⟨-, heq⟩ | ⟨-, -, hsupplied | ⟨q, found, hname, hsettled, -⟩⟩⟩ := read_cases hlast
      · cases congrArg State.ended heq
      · exact absurd rfl (hsupplied p)
      · refine ⟨front, q, ?_, accepted_iff.mpr ⟨before, found, hbefore, hsettled⟩, ?_⟩
        · rcases hname with rfl | rfl
          · exact Or.inl rfl
          · exact Or.inr rfl
        · rw [Ne, ← ended_iff_getLast? hbefore, hgoing]
          exact Bool.false_ne_true

/-- A parameter waits in a state that arguments have led to, unless they have ended the options, only if they wait. -/
theorem waits_of_pending {s : State} (h : start.readTo arguments = .ok s) (hgoing : s.ended = false) {p : Parameter}
    (hpending : s.pending? = some ⟨p, none⟩) : Waits arguments := by
  refine waits_iff.mpr ⟨s.settings, p, ?_⟩
  rw [h]
  obtain ⟨settings, pending?, ended⟩ := s
  cases hgoing
  cases hpending
  rfl

/-! ## Arguments with others behind -/

theorem showsHelp_append (h : ShowsHelp arguments) (back : List String) : ShowsHelp (arguments ++ back) := by
  rw [showsHelp_iff] at h ⊢
  rw [ofArguments_append, readTo_of_help h]

/-- Behind accepted arguments a request for help is heard, unless they have ended the options. -/
theorem showsHelp_behind (haccepted : ∃ path, Generates arguments path) (hlast : arguments.getLast? ≠ some "--")
    {argument : String} (h : argument = "-h" ∨ argument = "--help") (back : List String) :
    ShowsHelp (arguments ++ [argument] ++ back) := by
  obtain ⟨s, settings, hread, hsettled⟩ := accepted_iff.mp haccepted
  rw [Ne, ← ended_iff_getLast? hread, Bool.not_eq_true] at hlast
  have b : Between s settings := ⟨hsettled, hlast⟩
  rw [showsHelp_iff, List.append_assoc, ofArguments_append, hread]
  exact b.readAll_help h back

/-- Refused arguments that do not wait are refused with any others behind them. -/
theorem refuses_append {error : UsageError} (h : Refuses arguments error) (hwaits : ¬ Waits arguments)
    (back : List String) : ∃ error, Refuses (arguments ++ back) error := by
  rw [refuses_iff, ofArguments_eq] at h
  simp only [refuses_iff, ofArguments_append]
  cases hread : start.readTo arguments with
  | error decided =>
    simp only [hread] at h
    exact ⟨error, h⟩
  | ok s =>
    simp only [hread, finish] at h
    split at h
    · cases h
    · rename_i e hinvalid
      refine refused_of_invalid hinvalid ?_ back
      by_cases hended : s.ended = true
      · exact Or.inl hended
      · exact Or.inr fun p hpending => hwaits (waits_of_pending hread (Bool.not_eq_true _ ▸ hended) hpending)

theorem refuses_of_waits (h : Waits arguments) : ∃ p, Refuses arguments (.valueRequired p) := by
  obtain ⟨settings, p, hread⟩ := waits_iff.mp h
  refine ⟨p, refuses_iff.mpr ?_⟩
  rw [ofArguments_eq, hread]
  rfl

end Reading

/-- **The reader decides from left to right and never changes its mind.**  Arguments that show help do so with any
others behind them. Arguments that are accepted show help with a request for it behind them, unless they have ended the
options. Arguments that are refused are refused with any others behind them, requests for help included, unless their
last is a parameter that waits for its value; if it is, that is why they are refused. -/
theorem decides_left_to_right (xs ys : List String) :
    (ShowsHelp xs → ShowsHelp (xs ++ ys) ∧
      ∀ fs noColor? time, run fs (xs ++ ys) noColor? time = run fs xs noColor? time) ∧
    ((∃ path, Generates xs path) → xs.getLast? ≠ some "--" →
      ShowsHelp (xs ++ ["-h"] ++ ys) ∧ ShowsHelp (xs ++ ["--help"] ++ ys)) ∧
    ((∃ error, Refuses xs error) → ¬ Waits xs → ∃ error, Refuses (xs ++ ys) error) ∧
    (Waits xs → ∃ p, Refuses xs (.valueRequired p)) := by
  refine ⟨?_, ?_, ?_, refuses_of_waits⟩
  · intro h
    have hboth := showsHelp_append h ys
    exact ⟨hboth, fun fs noColor? time => by rw [hboth.outcome, h.outcome]⟩
  · intro haccepted hlast
    exact ⟨showsHelp_behind haccepted hlast (Or.inl rfl) ys, showsHelp_behind haccepted hlast (Or.inr rfl) ys⟩
  · rintro ⟨error, hrefused⟩ hwaits
    exact refuses_append hrefused hwaits ys

/-- A level that is none, behind a path: refused, even with a request for help behind, which would be heard behind the
path alone. -/
theorem decides_left_to_right_sample :
    ShowsHelp ["-onew", "-h"] ∧ ShowsHelp (["-onew", "-h"] ++ ["--what"]) ∧
      (∃ path, Generates ["-onew"] path) ∧ ["-onew"].getLast? ≠ some "--" ∧
      ShowsHelp (["-onew"] ++ ["--help"] ++ ["-l", "loud"]) ∧
      Refuses ["-onew", "-l", "loud"] (.invalidLevel "loud") ∧ ¬ Waits ["-onew", "-l", "loud"] ∧
      (∃ error, Refuses (["-onew", "-l", "loud"] ++ ["-h"]) error) ∧
      Waits ["-onew", "-l"] ∧ ∃ p, Refuses ["-onew", "-l"] (.valueRequired p) := by
  have hhelp : ShowsHelp ["-onew", "-h"] := showsHelp_iff.mpr rfl
  have haccepted : ∃ path, Generates ["-onew"] path := ⟨"new", generates_iff.mpr ⟨.warn, rfl⟩⟩
  have hlast : ["-onew"].getLast? ≠ some "--" := by decide
  have hrefused : Refuses ["-onew", "-l", "loud"] (.invalidLevel "loud") := refuses_iff.mpr rfl
  have hsupplied : ¬ Waits ["-onew", "-l", "loud"] := by
    rw [waits_iff]
    rintro ⟨settings, p, hread⟩
    have hpending : State.start.readTo ["-onew", "-l", "loud"] =
        .ok ⟨[.output "new"], some ⟨.logLevel, some "loud"⟩, false⟩ := rfl
    cases hpending.symm.trans hread
  have hwaits : Waits ["-onew", "-l"] := ⟨["-onew"], .logLevel, Or.inl rfl, haccepted, hlast⟩
  exact ⟨hhelp, ((decides_left_to_right _ ["--what"]).1 hhelp).1, haccepted, hlast,
    ((decides_left_to_right _ ["-l", "loud"]).2.1 haccepted hlast).2, hrefused, hsupplied,
    (decides_left_to_right _ ["-h"]).2.2.1 ⟨_, hrefused⟩ hsupplied, hwaits,
    (decides_left_to_right _ []).2.2.2 hwaits⟩

end CartridgeFixture.CommandLine
