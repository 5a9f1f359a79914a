import CartridgeFixture.Proofs.CommandLine.Outcomes
import CartridgeFixture.Proofs.Terminal.Shown

/-!
# What a refusal shows

A usage error may show a text from the command line, which can hold any sequences that a terminal obeys. The message
shows it without them, between words that are shown as they are (`UsageError.exists_frame`). So the whole message can be
shown as it is, and no escape character of an argument comes through (`refusal_is_shown`).

It makes no difference that the text is told without its sequences before the message is put together. If it stands in
the message as it was given, in a style and between words in any styles, then this message is the same without its
sequences, for the sequence behind the text breaks off whatever the text has left open.
-/
namespace CartridgeFixture.CommandLine

open Terminal

/-- The text from the command line that an error shows. -/
def UsageError.told : UsageError → String
  | .valueRequired _ | .repeated _ => ""
  | .invalidLevel value | .helpWithValue value _ => value
  | .unexpectedArgument argument => argument
  | .unknownOption name .. => "--" ++ name

/-! ## Words that are shown as they are -/

theorem isClean_append {front back : String} (hfront : isClean front.toList = true)
    (hback : isClean back.toList = true) : isClean (front ++ back).toList = true := by
  rw [String.toList_append, isClean, List.all_append, Bool.and_eq_true]
  exact ⟨hfront, hback⟩

theorem isClean_intercalate {separator : String} (hseparator : isClean separator.toList = true) {texts : List String}
    (h : ∀ text ∈ texts, isClean text.toList = true) : isClean (separator.intercalate texts).toList = true := by
  induction texts with
  | nil =>
    rw [String.intercalate_nil]
    rfl
  | cons text rest ih =>
    obtain ⟨htext, hrest⟩ := List.forall_mem_cons.mp h
    cases rest with
    | nil => rwa [String.intercalate_singleton]
    | cons next rest =>
      rw [String.intercalate_cons_cons]
      exact isClean_append (isClean_append htext hseparator) (ih hrest)

theorem isClean_switch (s : Switch) : isClean s.usage.toList = true := by
  rcases s with (_ | _) | _ <;> decide

theorem isClean_usageLine (given : List Switch) : isClean (UsageError.usageLine given).toList = true := by
  have hshown :
      isClean (if given.isEmpty then "[OPTIONS]" else " ".intercalate (given.map Switch.usage)).toList = true := by
    split
    · decide
    · refine isClean_intercalate (by decide) fun text htext => ?_
      obtain ⟨s, -, rfl⟩ := List.mem_map.mp htext
      exact isClean_switch s
  exact isClean_append (isClean_append (by decide) hshown) (by decide)

namespace UsageError

theorem isClean_tip (e : UsageError) : isClean e.tip.toList = true := by
  unfold tip
  split
  · rename_i s _
    have hname : isClean (String.ofList s.longName).toList = true := by
      rcases s with (_ | _) | _ <;> decide
    exact isClean_append (isClean_append (by decide) hname) (by decide)
  · rfl

theorem isClean_usage (e : UsageError) : isClean e.usage.toList = true := by
  cases e with
  | valueRequired | invalidLevel => rfl
  | repeated | unexpectedArgument => exact isClean_usageLine []
  | unknownOption _ _ given | helpWithValue _ given => exact isClean_usageLine given

/-- **A message is the text that it shows, between words that are shown as they are.** -/
structure Frames (e : UsageError) (before behind : String) : Prop where
  message : e.message = before ++ plain e.told ++ behind
  before : isClean before.toList = true
  behind : isClean behind.toList = true

/-- The headline is the text that it shows, between words that are shown as they are. -/
theorem exists_headline_frame (e : UsageError) : ∃ opening closing, e.headline = opening ++ plain e.told ++ closing ∧
    isClean opening.toList = true ∧ isClean closing.toList = true := by
  -- a text that is not there may stand behind the whole headline
  have hnothing : ∀ headline : String, headline = headline ++ plain "" ++ "" := by
    intro headline
    rw [show plain "" = "" from rfl, String.append_empty, String.append_empty]
  have hmove : ∀ opening told a b c d : String,
      opening ++ told ++ a ++ b ++ c ++ d = opening ++ told ++ (a ++ b ++ c ++ d) := by
    simp only [String.append_assoc, implies_true]
  cases e with
  | valueRequired p =>
    exact ⟨_, "", hnothing _, isClean_append (isClean_append (by decide) (isClean_switch _)) (by decide), by decide⟩
  | repeated p =>
    exact ⟨_, "", hnothing _, isClean_append (isClean_append (by decide) (isClean_switch _)) (by decide), by decide⟩
  | invalidLevel value =>
    exact ⟨_, _, hmove .., by decide,
      isClean_append (isClean_append (isClean_append (by decide) (isClean_switch _)) (by decide)) (by decide)⟩
  | unexpectedArgument argument => exact ⟨_, _, rfl, by decide, by decide⟩
  | unknownOption name => exact ⟨_, _, rfl, by decide, by decide⟩
  | helpWithValue value =>
    have hmove' : ∀ opening told a b c : String, opening ++ told ++ a ++ b ++ c = opening ++ told ++ (a ++ b ++ c) := by
      simp only [String.append_assoc, implies_true]
    exact ⟨_, _, hmove' .., by decide, isClean_append (isClean_append (by decide) (isClean_switch _)) (by decide)⟩

theorem exists_frame (e : UsageError) : ∃ before behind, Frames e before behind := by
  obtain ⟨opening, closing, hheadline, hopening, hclosing⟩ := e.exists_headline_frame
  have hmove : ∀ start opening told closing gap tip usage ending : String,
      start ++ (opening ++ told ++ closing) ++ gap ++ tip ++ usage ++ ending =
        start ++ opening ++ told ++ (closing ++ gap ++ tip ++ usage ++ ending) := by
    simp only [String.append_assoc, implies_true]
  refine ⟨"error: " ++ opening,
    closing ++ "\n\n" ++ e.tip ++ e.usage ++ "For more information, try '--help'.\n", ?_, ?_, ?_⟩
  · rw [UsageError.message, hheadline]
    exact hmove ..
  · exact isClean_append (by decide) hopening
  · exact isClean_append (isClean_append (isClean_append (isClean_append hclosing (by decide)) e.isClean_tip)
      e.isClean_usage) (by decide)

namespace Frames
variable {e : UsageError} {before behind : String}

theorem isClean_message (h : Frames e before behind) : isClean e.message.toList = true := by
  rw [h.message]
  exact isClean_append (isClean_append h.before (isClean_plain e.told)) h.behind

/-- **The message with the text as it was given**, in a style and between words in any styles, is the same message
without its sequences. -/
theorem plain_styled (h : Frames e before behind) {opening closing code : List Char}
    (hopening : ShownAs opening before.toList) (hclosing : ShownAs closing behind.toList)
    (hdigits : ∀ c ∈ code, c.isDigit = true) :
    plain (String.ofList (opening ++ (selectStyle code ++ e.told.toList ++ selectStyle ['0']) ++ closing)) =
      e.message := by
  have hshown := (hopening.append (shownAs_styled hdigits e.told.toList)).append hclosing
  refine String.toList_inj.mp ?_
  rw [toList_plain, String.toList_ofList, hshown.shown_eq, h.message, String.toList_append, String.toList_append,
    toList_plain]

end Frames

end UsageError

/-! ## Refusals -/

/-- The status of two tells that the arguments are refused. -/
theorem refuses_of_status {fs : FileSystem} {arguments : List String} {noColor? : Option String} {time : String}
    (h : (run fs arguments noColor? time).2.status = 2) : ∃ error, Refuses arguments error := by
  cases harguments : Invocation.ofArguments arguments with
  | help =>
    rw [(showsHelp_iff.mpr harguments).outcome] at h
    cases h
  | refused error => exact ⟨error, refuses_iff.mpr harguments⟩
  | run path level =>
    rw [(generates_iff.mpr ⟨level, harguments⟩).status] at h
    split at h
    · cases h
    · cases h

/-- **A refused command line sends no control sequences to the terminal.**  Whatever its arguments hold, if they end in
a usage error, there is no escape character in the error stream; every character is one that is shown, so nothing can be
taken out of the stream as a sequence. It tells the text that is at fault, without the sequences of that text, and is
what is shown of the message in which this text stands as it was given, in a style and between words in any styles. -/
theorem refusal_is_shown {fs : FileSystem} {arguments : List String} {noColor? : Option String} {time : String}
    (h : (run fs arguments noColor? time).2.status = 2) :
    escapeChar ∉ (run fs arguments noColor? time).2.stderr.toList ∧
    isClean (run fs arguments noColor? time).2.stderr.toList = true ∧
    plain (run fs arguments noColor? time).2.stderr = (run fs arguments noColor? time).2.stderr ∧
    ∃ error before behind, Refuses arguments error ∧ error.Frames before behind ∧
      (run fs arguments noColor? time).2.stderr = before ++ plain error.told ++ behind ∧
      ∀ opening closing code : List Char, ShownAs opening before.toList → ShownAs closing behind.toList →
        (∀ c ∈ code, c.isDigit = true) →
        plain (String.ofList (opening ++ (selectStyle code ++ error.told.toList ++ selectStyle ['0']) ++ closing)) =
          (run fs arguments noColor? time).2.stderr := by
  obtain ⟨error, hrefused⟩ := refuses_of_status h
  obtain ⟨before, behind, hframes⟩ := error.exists_frame
  have hstderr : (run fs arguments noColor? time).2.stderr = error.message := by rw [hrefused.outcome]
  rw [hstderr]
  have hclean := hframes.isClean_message
  exact ⟨escapeChar_notMem_of_isClean hclean, hclean, plain_of_isClean hclean, error, before, behind, hrefused, hframes,
    hframes.message, fun _ _ _ hopening hclosing hdigits => hframes.plain_styled hopening hclosing hdigits⟩

/-- A refused level that ends within a command, and the name of no option with a device string that is broken off. -/
theorem refusal_is_shown_sample :
    (run Generation.sample ["--log-level=\x1b[31mloud\x1b]0;"] none "now").2.status = 2 ∧
      escapeChar ∉ (run Generation.sample ["--log-level=\x1b[31mloud\x1b]0;"] none "now").2.stderr.toList ∧
      (∃ before behind : String,
        (run Generation.sample ["--log-level=\x1b[31mloud\x1b]0;"] none "now").2.stderr = before ++ "loud" ++ behind ∧
        plain (String.ofList (before.toList ++
          (selectStyle ['3', '3'] ++ "\x1b[31mloud\x1b]0;".toList ++ selectStyle ['0']) ++ behind.toList)) =
            (run Generation.sample ["--log-level=\x1b[31mloud\x1b]0;"] none "now").2.stderr) ∧
      (run Generation.sample ["-onew", "--\x1bP1\x1b[1m\x18name"] none "now").2.status = 2 ∧
      escapeChar ∉ (run Generation.sample ["-onew", "--\x1bP1\x1b[1m\x18name"] none "now").2.stderr.toList := by
  have hlevel : (run Generation.sample ["--log-level=\x1b[31mloud\x1b]0;"] none "now").2.status = 2 := rfl
  have hname : (run Generation.sample ["-onew", "--\x1bP1\x1b[1m\x18name"] none "now").2.status = 2 := rfl
  obtain ⟨hnone, -, -, error, before, behind, hrefused, hframes, hstderr, hstyled⟩ := refusal_is_shown hlevel
  have hinvalid : Invocation.ofArguments ["--log-level=\x1b[31mloud\x1b]0;"] =
      .refused (.invalidLevel "\x1b[31mloud\x1b]0;") := rfl
  cases hinvalid.symm.trans (refuses_iff.mp hrefused)
  have hplain : plain (UsageError.invalidLevel "\x1b[31mloud\x1b]0;").told = "loud" := rfl
  rw [hplain] at hstderr
  exact ⟨hlevel, hnone, ⟨before, behind, hstderr, hstyled _ _ ['3', '3'] (shownAs_of_isClean hframes.before)
    (shownAs_of_isClean hframes.behind) (List.all_eq_true.mp rfl)⟩, hname, (refusal_is_shown hname).1⟩

end CartridgeFixture.CommandLine
