import CartridgeFixture.Proofs.CommandLine.Outcomes
import CartridgeFixture.Proofs.Log.Level

/-!
# The level on a command line

The log level of a command line is a text, in any of the forms in which a parameter is given a value and at any place
among the other settings. The command line is accepted at a level iff the text is one that the level is written as. If
it is written as no level, that is a usage error, which shows the text and which no argument behind can undo
(`level_read_exactly`).
-/
namespace CartridgeFixture.CommandLine

open LogLevel (Written)

variable {before occurrence after : List String} {settings more : List Setting} {text : String}

theorem Occurrences.append_row (hbefore : Occurrences before settings) (hafter : Row after more) :
    Row (before ++ after) (settings ++ more) := by
  induction hbefore with
  | nil => exact hafter
  | cons hgives hadmits _ ih =>
    rw [List.append_assoc]
    exact ih.cons hgives hadmits

theorem settle_level_error (hnew : .logLevel ∉ settings.map Setting.parameter)
    (h : ∀ level : LogLevel, ¬ Written level text.toList) :
    settle settings ⟨.logLevel, some text⟩ = .error (.invalidLevel text) := by
  have hnone : LogLevel.ofText? text = none := by
    refine Option.eq_none_iff_forall_ne_some.mpr fun level hlevel => ?_
    exact h level (LogLevel.ofText?_eq_some_iff.mp hlevel)
  simp only [settle, if_neg hnew, Setting.ofValue, hnone]
  rfl

/-- **A text that a level is written as** asks for that level, among any other settings. -/
theorem accepts_level {level : LogLevel} (hbefore : Occurrences before settings)
    (hgives : Gives .logLevel text occurrence) (hafter : Row after more)
    (honce : (settings.map Setting.parameter ++ .logLevel :: more.map Setting.parameter).Nodup)
    (h : Written level text.toList) :
    ∃ path, Invocation.ofArguments (before ++ occurrence ++ after) = .run path level := by
  have hadmits : Admits .logLevel text (.logLevel level) := .logLevel (LogLevel.ofText?_eq_some_iff.mpr h)
  have hrow : Row (before ++ occurrence ++ after) (settings ++ .logLevel level :: more) := by
    rw [List.append_assoc]
    exact hbefore.append_row (hafter.cons hgives hadmits)
  have hspells : Spells (before ++ occurrence ++ after) (settings ++ .logLevel level :: more) :=
    ⟨hrow, by rwa [List.map_append, List.map_cons]⟩
  have hasks : Asks (settings ++ .logLevel level :: more) _ level :=
    ⟨(asks_pathOf_levelOf _).path, Or.inl (List.mem_append_cons_self)⟩
  exact ⟨_, ofArguments_eq_run_iff.mpr ⟨_, hspells, hasks⟩⟩

/-- **A text that is no level is a usage error**, whatever stands behind it. -/
theorem refuses_level (hbefore : Occurrences before settings) (hgives : Gives .logLevel text occurrence)
    (hsupplied : occurrence ≠ ["-l"])
    (honce : (settings.map Setting.parameter).Nodup) (hnew : .logLevel ∉ settings.map Setting.parameter)
    (h : ∀ level : LogLevel, ¬ Written level text.toList) :
    Refuses (before ++ occurrence) (.invalidLevel text) ∧
      ∀ rest, ∃ error, Refuses (before ++ occurrence ++ rest) error := by
  obtain ⟨s, hs, hread⟩ := State.between_start.readAll_row hbefore honce
  obtain ⟨hrefused, hfinal⟩ := hs.refused_of_gives hgives hsupplied (settle_level_error hnew h)
  constructor
  · exact refuses_iff.mpr ((hread occurrence).trans hrefused)
  · intro rest
    obtain ⟨error, herror⟩ := hfinal rest
    refine ⟨error, refuses_iff.mpr ?_⟩
    rw [List.append_assoc]
    exact (hread _).trans herror

/-- **The level of a command line is read exactly.**  A text that is given for the level, in any form and among any
other settings, is accepted as a level iff it is the digit of its rank, behind any number of zeros and perhaps a plus
sign, or its name, up to the case of ASCII letters. Any other text is a usage error with any arguments behind it, and so
the files are left alone. The letter of the parameter alone gives it no text. -/
theorem level_read_exactly (hbefore : Occurrences before settings) (hgives : Gives .logLevel text occurrence)
    (hsupplied : occurrence ≠ ["-l"]) (hafter : Row after more)
    (honce : (settings.map Setting.parameter ++ .logLevel :: more.map Setting.parameter).Nodup) :
    (∀ level : LogLevel, (∃ path, Invocation.ofArguments (before ++ occurrence ++ after) = .run path level) ↔
      Written level text.toList) ∧
    ((∀ level : LogLevel, ¬ Written level text.toList) →
      Refuses (before ++ occurrence) (.invalidLevel text) ∧
        ∀ rest, ∃ error, Refuses (before ++ occurrence ++ rest) error) := by
  have hrefuses : (∀ level : LogLevel, ¬ Written level text.toList) →
      Refuses (before ++ occurrence) (.invalidLevel text) ∧
        ∀ rest, ∃ error, Refuses (before ++ occurrence ++ rest) error := by
    obtain ⟨hbehind, -, hapart⟩ := List.nodup_append.mp honce
    exact refuses_level hbefore hgives hsupplied hbehind fun hmem => hapart _ hmem _ (List.mem_cons_self ..) rfl
  refine ⟨fun level => ⟨?_, accepts_level hbefore hgives hafter honce⟩, hrefuses⟩
  rintro ⟨path, hrun⟩
  by_cases hwritten : ∃ level : LogLevel, Written level text.toList
  · obtain ⟨other, hother⟩ := hwritten
    obtain ⟨_, hother'⟩ := accepts_level hbefore hgives hafter honce hother
    cases hrun.symm.trans hother'
    exact hother
  · obtain ⟨error, hrefused⟩ := (hrefuses fun level h => hwritten ⟨level, h⟩).2 after
    cases hrun.symm.trans (refuses_iff.mp hrefused)

/-- Zeros behind a sign, a number that is 1 modulo 2^64, and a blank in front of a name. -/
theorem level_read_exactly_sample :
    (∃ path, Invocation.ofArguments (["-onew"] ++ ["--log-level", "+003"] ++ ["--"]) = .run path .info) ∧
      Refuses (["-onew"] ++ ["-l18446744073709551617"]) (.invalidLevel "18446744073709551617") ∧
      ∃ error, Refuses ([] ++ ["--log-level= info"] ++ ["-h"]) error := by
  have hpath : Gives .output "new" ["-onew"] := .joined (by decide)
  have hbefore : Occurrences ["-onew"] [.output "new"] := .cons hpath (.output (by decide)) .nil
  have hinfo : Written .info "+003".toList := .rank (Or.inr rfl) 2
  have hlarge : Numeral.Denotes 10 "18446744073709551617".toList (2 ^ 64 + 1) :=
    (Numeral.read?_eq_some_iff.mp (show Numeral.read? 10 (2 ^ 64 + 1) _ = _ by decide)).1
  have hjoined : Gives .logLevel "18446744073709551617" ["-l18446744073709551617"] := .joined (by decide)
  have hequals : Gives .logLevel " info" ["--log-level= info"] := .longEquals
  refine ⟨?_, ?_, ?_⟩
  · have hapart : Gives .logLevel "+003" ["--log-level", "+003"] := .longApart (Or.inr (by decide))
    exact ((level_read_exactly hbefore hapart (by decide) (Or.inr ⟨[], rfl, .nil⟩) (by decide)).1 .info).mpr hinfo
  · refine ((level_read_exactly hbefore hjoined (by decide) (Or.inl .nil) (by decide)).2 fun level h => ?_).1
    have hrank := (LogLevel.written_iff_of_denotes hlarge).mp h
    have hlt := level.rank_lt
    omega
  · refine ((level_read_exactly .nil hequals (by decide) (Or.inl .nil) (by decide)).2 fun level h => ?_).2 ["-h"]
    exact absurd (h.isAlphanum (show ' ' ∈ " info".toList by decide)) (by decide)

end CartridgeFixture.CommandLine
