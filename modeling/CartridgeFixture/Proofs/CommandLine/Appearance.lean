import CartridgeFixture.Proofs.CommandLine.Refinement
import CartridgeFixture.Proofs.Generation.Success
import Mathlib.Data.List.TakeWhile

/-!
# What colours and levels change

Colours and the level of logging change the error stream and nothing else, and of that only how it looks. Without the
sequences that select styles (`Terminal.unstyled`) a coloured text is the plain one. This is said of a text with any
other text behind it (`Terminal.Bares`), since a sequence is recognised by what follows it; so it is kept when texts are
put together, from the painted words to the lines and to the whole stream. The path is written as it is between the
sequences, and stays as it is if it has no escape character of its own.

A level picks some of the events (`Event.collected`), so the lines at a graver level are some of those at a more
talkative one, and the report of a failure, which is not an event, stands behind either.
-/
namespace CartridgeFixture

namespace Terminal

/-! ## Texts without styles -/

/-- What stands behind a sequence that selects a style, if a text begins with one: `ESC [`, digits and `m`. -/
def behindStyle? : List Char → Option (List Char)
  | '\x1b' :: '[' :: text =>
    match text.takeWhile Char.isDigit, text.dropWhile Char.isDigit with
    | _ :: _, 'm' :: behind => some behind
    | _, _ => none
  | _ => none

theorem length_lt_of_behindStyle? {text behind : List Char} (h : behindStyle? text = some behind) :
    behind.length < text.length := by
  unfold behindStyle? at h
  split at h
  · rename_i text
    split at h
    · rename_i hdrop
      cases h
      have hle := List.length_dropWhile_le Char.isDigit text
      rw [hdrop] at hle
      simp only [List.length_cons] at hle ⊢
      omega
    · cases h
  · cases h

/-- **A text without the sequences that select styles.** -/
def unstyled : List Char → List Char
  | [] => []
  | c :: rest =>
    match _h : behindStyle? (c :: rest) with
    | some behind => unstyled behind
    | none => c :: unstyled rest
termination_by text => text.length
decreasing_by
  · exact length_lt_of_behindStyle? _h
  · exact Nat.lt_succ_self _

theorem unstyled_of_behind {c : Char} {rest behind : List Char} (h : behindStyle? (c :: rest) = some behind) :
    unstyled (c :: rest) = unstyled behind := by
  rw [unstyled]
  split
  · rename_i other hother
    cases h.symm.trans hother
    rfl
  · rename_i hnone
    cases h.symm.trans hnone

theorem unstyled_of_none {c : Char} {rest : List Char} (h : behindStyle? (c :: rest) = none) :
    unstyled (c :: rest) = c :: unstyled rest := by
  rw [unstyled]
  split
  · rename_i hsome
    cases h.symm.trans hsome
  · rfl

/-- **What is left of a text without its styles**, whatever stands behind it. -/
def Bares (styled plain : List Char) : Prop := ∀ rest, unstyled (styled ++ rest) = plain ++ unstyled rest

theorem Bares.unstyled_eq {styled plain : List Char} (h : Bares styled plain) : unstyled styled = plain := by
  have hend := h []
  rwa [List.append_nil, unstyled, List.append_nil] at hend

theorem Bares.append {styled plain styled' plain' : List Char} (h : Bares styled plain) (h' : Bares styled' plain') :
    Bares (styled ++ styled') (plain ++ plain') := by
  intro rest
  rw [List.append_assoc, h, h', List.append_assoc]

theorem Bares.flatMap {α : Type} {styled plain : α → List Char} {xs : List α}
    (h : ∀ x ∈ xs, Bares (styled x) (plain x)) : Bares (xs.flatMap styled) (xs.flatMap plain) := by
  induction xs with
  | nil => exact fun rest => rfl
  | cons x xs ih =>
    rw [List.flatMap_cons, List.flatMap_cons]
    exact (h x (List.mem_cons_self ..)).append (ih fun y hy => h y (List.mem_cons_of_mem _ hy))

/-- A text without escape characters is left as it is. -/
theorem bares_of_notMem {text : List Char} (h : escapeChar ∉ text) : Bares text text := by
  intro rest
  induction text with
  | nil => rfl
  | cons c text ih =>
    rw [List.mem_cons, not_or] at h
    obtain ⟨hc, htext⟩ := h
    -- no sequence begins within the text, so none reaches over its end
    have hnone : behindStyle? (c :: (text ++ rest)) = none := by
      unfold behindStyle?
      split
      · rename_i heq
        exact absurd (List.cons.inj heq).1.symm hc
      · rfl
    rw [List.cons_append, unstyled_of_none hnone, ih htext]
    rfl

/-- A sequence that selects a style leaves nothing. -/
theorem bares_selectStyle {code : List Char} (hne : code ≠ []) (hdigits : ∀ c ∈ code, c.isDigit = true) :
    Bares (selectStyle code) [] := by
  intro rest
  have hbehind : behindStyle? (selectStyle code ++ rest) = some rest := by
    have htext : selectStyle code ++ rest = '\x1b' :: '[' :: (code ++ 'm' :: rest) := by simp [selectStyle]
    have htake : (code ++ 'm' :: rest).takeWhile Char.isDigit = code := by
      rw [List.takeWhile_append_of_pos hdigits, List.takeWhile_cons_of_neg (by decide), List.append_nil]
    have hdrop : (code ++ 'm' :: rest).dropWhile Char.isDigit = 'm' :: rest := by
      rw [List.dropWhile_append_of_pos hdigits, List.dropWhile_cons_of_neg (by decide)]
    obtain ⟨digit, digits, rfl⟩ := List.exists_cons_of_ne_nil hne
    rw [htext, behindStyle?, htake, hdrop]
    rfl
  exact unstyled_of_behind hbehind

/-- **Painted text is left as it is unpainted.** -/
theorem bares_paint (style : Style) {text : List Char} (h : escapeChar ∉ text) :
    Bares (paint true style text) (paint false style text) := by
  have hselect : Bares (selectStyle style.code) [] := by
    cases style <;> exact bares_selectStyle (List.cons_ne_nil _ _) (List.all_eq_true.mp rfl)
  have hreset : Bares (selectStyle ['0']) [] :=
    bares_selectStyle (List.cons_ne_nil _ _) (List.all_eq_true.mp rfl)
  have hpainted := (hselect.append (bares_of_notMem h)).append hreset
  rwa [List.nil_append, List.append_nil] at hpainted

/-- No sequence without its escape character, nor without digits. -/
example : unstyled "\x1b[31m[0m\x1b[m\x1b[0m".toList = "[0m\x1b[m".toList := by cbv

end Terminal

/-! ## Log lines -/

namespace Log

open Terminal

theorem escapeChar_notMem_number (n : Nat) : escapeChar ∉ (FieldValue.number n).shown.toList := by
  intro hmem
  have hdigits : (FieldValue.number n).shown.toList = Nat.toDigits 10 n := String.toList_ofList
  rw [hdigits] at hmem
  cases Nat.isDigit_of_mem_toDigits (by decide) (by decide) hmem

theorem bares_fieldText {field : String × FieldValue} (hname : escapeChar ∉ field.1.toList)
    (hvalue : escapeChar ∉ field.2.shown.toList) : Bares (fieldText true field) (fieldText false field) := by
  have hblank : Bares [' '] [' '] := bares_of_notMem (by decide)
  exact hblank.append (((bares_paint .italic hname).append (bares_paint .dim (by decide))).append
    (bares_of_notMem hvalue))

theorem escapeChar_notMem_fieldName (e : Event) : ∀ field ∈ e.fields, escapeChar ∉ field.1.toList := by
  intro field hfield
  have hname : field.1 ∈ e.fields.map Prod.fst := List.mem_map_of_mem hfield
  cases e with
  | writing path length =>
    have hnames : ∀ name ∈ ["path", "len"], escapeChar ∉ name.toList := by decide
    exact hnames _ hname
  | wrote path summary =>
    have hnames : ∀ name ∈ ["path", "mapper", "mirroring", "prg_rom", "chr_rom"], escapeChar ∉ name.toList := by decide
    exact hnames _ hname

/-- **A coloured log line is left as the plain one**, if neither the time nor a value has an escape character. -/
theorem bares_line {time : String} {e : Event} (htime : escapeChar ∉ time.toList)
    (hvalues : ∀ field ∈ e.fields, escapeChar ∉ field.2.shown.toList) :
    Bares (line true time e).toList (line false time e).toList := by
  have hblank : Bares [' '] [' '] := bares_of_notMem (by decide)
  have hend : Bares ['\n'] ['\n'] := bares_of_notMem (by decide)
  have hlabel : ∀ level : LogLevel, escapeChar ∉ Text.padLeft ' ' 5 level.label.toList := by
    intro level
    cases level <;> decide
  have hmessage : escapeChar ∉ e.message.toList := by
    cases e with
    | writing => exact (by decide : escapeChar ∉ "writing iNES fixture".toList)
    | wrote => exact (by decide : escapeChar ∉ "wrote iNES fixture".toList)
  have hfields : Bares (e.fields.flatMap (fieldText true)) (e.fields.flatMap (fieldText false)) :=
    .flatMap fun field hfield => bares_fieldText (escapeChar_notMem_fieldName e field hfield) (hvalues field hfield)
  unfold line
  rw [String.toList_ofList, String.toList_ofList]
  exact ((((((bares_paint .dim htime).append hblank).append (bares_paint _ (hlabel e.level))).append hblank).append
    (bares_of_notMem hmessage)).append hfields).append hend

end Log

namespace CommandLine

open Terminal

/-! ## The error stream -/

section Stream
variable (fs : FileSystem) (path : String)

/-- The report of a failure, if there was one. -/
def reportText : Option Failure → String
  | none => ""
  | some failure => failure.report

/-- The status that tells whether there was a failure. -/
def statusOf : Option Failure → Nat
  | none => 0
  | some _ => 1

/-- **What an accepted command line leaves behind**, part by part: only its log lines depend on more than the path. -/
theorem run_eq_of_accepted {arguments : List String} {path : String} {level : LogLevel}
    (h : Invocation.ofArguments arguments = .run path level) (noColor? : Option String) (time : String) :
    run fs arguments noColor? time = ((generateTo fs path).fileSystem,
      ⟨statusOf (generateTo fs path).failure?, "",
        logText ⟨level, usesColour noColor?, time⟩ (Event.collected level (generateTo fs path).events) ++
          reportText (generateTo fs path).failure?⟩) := by
  rw [run_of_accepted fs noColor? time h]
  cases (generateTo fs path).failure? with
  | none => simp [statusOf, reportText]
  | some failure => rfl

theorem eq_opening_or_closing {e : Event} (he : e ∈ (generateTo fs path).events) :
    e = Generation.opening path ∨ e = Generation.closing path := by
  rw [generateTo_events] at he
  cases hanswer : (fs.writeFile path Image.bytes).1 with
  | ok =>
    simp only [hanswer, List.mem_cons, List.not_mem_nil, or_false] at he
    exact he
  | error cause =>
    simp only [hanswer, List.mem_singleton] at he
    exact Or.inl he

/-- Besides the path, the values of the events of a generation are numbers and the name of an arrangement. -/
theorem escapeChar_notMem_value {fs : FileSystem} {path : String} {e : Event} (he : e ∈ (generateTo fs path).events)
    (hpath : escapeChar ∉ path.toList) : ∀ field ∈ e.fields, escapeChar ∉ field.2.shown.toList := by
  intro field hfield
  rcases eq_opening_or_closing fs path he with rfl | rfl
  · simp only [Generation.opening, Event.fields, List.mem_cons, List.not_mem_nil, or_false] at hfield
    rcases hfield with rfl | rfl
    · exact hpath
    · exact Log.escapeChar_notMem_number _
  · simp only [Generation.closing, Event.fields, List.mem_cons, List.not_mem_nil, or_false] at hfield
    rcases hfield with rfl | rfl | rfl | rfl | rfl
    · exact hpath
    · exact Log.escapeChar_notMem_number _
    · exact (by decide : escapeChar ∉ Header.Summary.fixture.mirroring.name.toList)
    · exact Log.escapeChar_notMem_number _
    · exact Log.escapeChar_notMem_number _

theorem escapeChar_notMem_message (fault : Fault) : escapeChar ∉ fault.message.toList := by
  have hdescription : escapeChar ∉ fault.description.toList := by cases fault <;> decide
  unfold Fault.message
  split
  · exact hdescription
  · rename_i n _
    simp only [String.toList_append, List.mem_append, not_or]
    exact ⟨⟨⟨hdescription, by decide⟩, Log.escapeChar_notMem_number n⟩, by decide⟩

/-- The report of a failure has no escape character but those of the path. -/
theorem escapeChar_notMem_report {failure : Failure} (hpath : escapeChar ∉ failure.path.toList) :
    escapeChar ∉ failure.report.toList := by
  unfold Failure.report Failure.reportOf Failure.message Failure.messageOf
  simp only [String.toList_append, List.mem_append, not_or]
  exact ⟨⟨⟨⟨by decide, by decide, hpath⟩, by decide⟩, escapeChar_notMem_message failure.cause⟩, by decide⟩

theorem escapeChar_notMem_reportText {fs : FileSystem} {path : String} (hpath : escapeChar ∉ path.toList) :
    escapeChar ∉ (reportText (generateTo fs path).failure?).toList := by
  cases hfailure : (generateTo fs path).failure? with
  | none => exact (by decide : escapeChar ∉ "".toList)
  | some failure =>
    obtain ⟨rfl, -⟩ := (failure?_eq_some_iff fs path failure).mp hfailure
    exact escapeChar_notMem_report hpath

/-- What is logged at some level is what of a more talkative one is enabled. -/
theorem collected_of_enabledAt {level level' : LogLevel} (h : level.enabledAt level' = true) (events : List Event) :
    Event.collected level events = (Event.collected level' events).filter fun e => e.level.enabledAt level := by
  unfold Event.collected
  rw [List.filter_filter]
  refine List.filter_congr fun e _ => ?_
  rw [Bool.eq_iff_iff, Bool.and_eq_true]
  simp only [LogLevel.enabledAt, decide_eq_true_eq] at h ⊢
  omega

theorem bares_logText {level : LogLevel} {time : String} {events : List Event}
    (h : ∀ e ∈ events, Bares (Log.line true time e).toList (Log.line false time e).toList) :
    Bares (logText ⟨level, true, time⟩ events).toList (logText ⟨level, false, time⟩ events).toList := by
  unfold logText
  rw [String.toList_join, String.toList_join, List.flatMap_map, List.flatMap_map]
  exact .flatMap h

end Stream

/-- **Colours and levels change the error stream only, and of that only how it looks.**  Command lines that are accepted
with the same path leave the same files, status and standard output, whatever their levels and their settings of
`NO_COLOR`. At the same level, the coloured error stream is the plain one without the sequences that select styles, if
neither path nor time has an escape character. In the same colours, the lines at the graver level are some of those at
the more talkative one, each of them the whole line of an event, and the same report stands behind them. An empty
`NO_COLOR` is none. -/
theorem only_appearance_differs (fs : FileSystem) {path : String} {level level' : LogLevel}
    {arguments arguments' : List String} (h : Invocation.ofArguments arguments = .run path level)
    (h' : Invocation.ofArguments arguments' = .run path level') :
    (∀ noColor? noColor?' time time',
      (run fs arguments noColor? time).1 = (run fs arguments' noColor?' time').1 ∧
      (run fs arguments noColor? time).2.status = (run fs arguments' noColor?' time').2.status ∧
      (run fs arguments noColor? time).2.stdout = (run fs arguments' noColor?' time').2.stdout) ∧
    (level = level' → escapeChar ∉ path.toList → ∀ time, escapeChar ∉ time.toList →
      ∀ noColor? noColor?', usesColour noColor? = true → usesColour noColor?' = false →
        unstyled (run fs arguments noColor? time).2.stderr.toList =
          (run fs arguments' noColor?' time).2.stderr.toList) ∧
    (level.enabledAt level' = true → ∀ time noColor? noColor?', usesColour noColor? = usesColour noColor?' →
      ∃ lines lines' report,
        (run fs arguments noColor? time).2.stderr = String.join lines ++ report ∧
        (run fs arguments' noColor?' time).2.stderr = String.join lines' ++ report ∧
        lines.Sublist lines' ∧
        (∀ line ∈ lines', ∃ e ∈ (generateTo fs path).events, line = Log.line (usesColour noColor?') time e) ∧
        report = reportText (generateTo fs path).failure?) ∧
    ∀ time, run fs arguments (some "") time = run fs arguments none time := by
  refine ⟨?_, ?_, ?_, ?_⟩
  · intro noColor? noColor?' time time'
    rw [run_eq_of_accepted fs h, run_eq_of_accepted fs h']
    exact ⟨rfl, rfl, rfl⟩
  · rintro rfl hpath time htime noColor? noColor?' hcolour hplain
    let events := Event.collected level (generateTo fs path).events
    have hlog : Bares (logText ⟨level, true, time⟩ events).toList (logText ⟨level, false, time⟩ events).toList :=
      bares_logText fun e he => Log.bares_line htime (escapeChar_notMem_value (List.mem_filter.mp he).1 hpath)
    have hreport : escapeChar ∉ (reportText (generateTo fs path).failure?).toList := escapeChar_notMem_reportText hpath
    have hstream := hlog.append (bares_of_notMem hreport)
    rw [run_eq_of_accepted fs h, run_eq_of_accepted fs h', hcolour, hplain, String.toList_append, String.toList_append]
    exact hstream.unstyled_eq
  · intro hlevel time noColor? noColor?' hcolour
    rw [run_eq_of_accepted fs h, run_eq_of_accepted fs h', hcolour]
    refine ⟨_, _, _, rfl, rfl, ?_, ?_, rfl⟩
    · refine List.Sublist.map _ ?_
      rw [collected_of_enabledAt hlevel]
      exact List.filter_sublist
    · intro line hline
      obtain ⟨e, he, rfl⟩ := List.mem_map.mp hline
      exact ⟨e, (List.mem_filter.mp he).1, rfl⟩
  · intro time
    rw [run_eq_of_accepted fs h, run_eq_of_accepted fs h]
    rfl

/-- A file whose name is the end of a sequence, written at two levels. -/
theorem only_appearance_differs_sample :
    Invocation.ofArguments ["-o[0m", "-linfo"] = .run "[0m" .info ∧
      Invocation.ofArguments ["-ltrace", "--output", "[0m"] = .run "[0m" .trace ∧
      (run Generation.sample ["-o[0m", "-linfo"] none "now").2.status = 0 ∧
      (run Generation.sample ["-o[0m", "-linfo"] none "now").1 =
        (run Generation.sample ["-ltrace", "--output", "[0m"] (some "1") "later").1 ∧
      unstyled (run Generation.sample ["-o[0m", "-linfo"] none "now").2.stderr.toList =
        ("now  INFO wrote iNES fixture path=[0m mapper=0 mirroring=Vertical prg_rom=32768 " ++
          "chr_rom=8192\n").toList ∧
      ∃ lines lines' report,
        (run Generation.sample ["-o[0m", "-linfo"] none "now").2.stderr = String.join lines ++ report ∧
        (run Generation.sample ["-ltrace", "--output", "[0m"] none "now").2.stderr = String.join lines' ++ report ∧
        lines.Sublist lines' := by
  have h : Invocation.ofArguments ["-o[0m", "-linfo"] = .run "[0m" .info := rfl
  have h' : Invocation.ofArguments ["-ltrace", "--output", "[0m"] = .run "[0m" .trace := rfl
  have hsame := only_appearance_differs Generation.sample h h
  have hdiffer := only_appearance_differs Generation.sample h h'
  refine ⟨h, h', rfl, (hdiffer.1 none (some "1") "now" "later").1, ?_, ?_⟩
  · exact hsame.2.1 rfl (by decide) "now" (by decide) none (some "1") rfl rfl
  · obtain ⟨lines, lines', report, hlines, hlines', hsublist, -, -⟩ := hdiffer.2.2.1 rfl "now" none none rfl
    exact ⟨lines, lines', report, hlines, hlines', hsublist⟩

end CommandLine

end CartridgeFixture
