import CartridgeFixture.Generation
import CartridgeFixture.Proofs.Text.Occurrences
import CartridgeFixture.Proofs.Text.Quotation

/-!
# How a failure is told

A failure is told as its message and its cause, on one line or as a report of several, and field by field.

The message depends on the path alone, and the path may be any text; so how often a report names the cause is counted
from one separator to the next (`Text.occurrences_append_cons`), which leaves the occurrences in the message and one
more (`cause_named_once`). This holds for a cause that cannot be taken for the words around it (`StandsOut`): a text
such as `Error` stands in every report. All faults stand out.

Field by field the path is quoted, and a quotation is read back wherever it stands; so a failure that is told in this
way is told apart from every other (`inline_determines_failure`).
-/
namespace CartridgeFixture.Failure

open Text

/-- How often a text stands in another. -/
def timesIn (word text : String) : Nat := occurrences word.toList text.toList

/-- What stands in front of the path in a message. -/
def openingWords : List Char := "failed to write fixture to ".toList

/-- **A cause that stands out**: one line without a colon, which neither stands in the headings of a report nor begins
within the words in front of a path. -/
structure StandsOut (cause : String) : Prop where
  nonempty : cause ≠ ""
  oneLine : ':' ∉ cause.toList ∧ '\n' ∉ cause.toList
  headings : ¬ cause.toList <:+: "Error".toList ∧ ¬ cause.toList <:+: "Caused by".toList
  opening : ∀ tail ∈ openingWords.tails, tail ≠ [] → ¬ tail <+: cause.toList ∧ ¬ cause.toList <+: tail

/-- A failure to write to a path names its cause once beyond the message, and once in all unless the path does. -/
structure NamesOnce (path cause : String) : Prop where
  chain : timesIn cause (chainOf (messageOf path) cause) = timesIn cause (messageOf path) + 1
  report : timesIn cause (reportOf (messageOf path) cause) = timesIn cause (messageOf path) + 1
  once : ¬ cause.toList <:+: path.toList →
    timesIn cause (chainOf (messageOf path) cause) = 1 ∧ timesIn cause (reportOf (messageOf path) cause) = 1

variable {path cause : String}

theorem toList_messageOf (path : String) : (messageOf path).toList = openingWords ++ path.toList :=
  String.toList_append

/-- **A fault that the system numbers stands out**, whatever its description, if that is one line without a colon and
begins with a character that none of the words in front of a path has. -/
theorem standsOut_numbered {description : String} (n : Nat)
    (hhead : description.toList.head?.any (fun c => c ∉ openingWords) = true)
    (hline : ':' ∉ description.toList ∧ '\n' ∉ description.toList) :
    StandsOut (description ++ " (os error " ++ toString n ++ ")") := by
  have hnumber : ∀ c, c.isDigit = false → c ∉ (toString n).toList := by
    intro c hc hmem
    rw [show (toString n).toList = Nat.toDigits 10 n from String.toList_ofList] at hmem
    rw [Nat.isDigit_of_mem_toDigits (by decide) (by decide) hmem] at hc
    cases hc
  have htext : (description ++ " (os error " ++ toString n ++ ")").toList =
      description.toList ++ " (os error ".toList ++ (toString n).toList ++ ")".toList := by
    simp only [String.toList_append]
  have hmark : '(' ∈ (description ++ " (os error " ++ toString n ++ ")").toList := by simp
  obtain ⟨c, rest, hdescription, hforeign⟩ :
      ∃ c rest, description.toList = c :: rest ∧ c ∉ openingWords := by
    cases hdescription : description.toList with
    | nil =>
      rw [hdescription] at hhead
      cases hhead
    | cons c rest =>
      rw [hdescription] at hhead
      exact ⟨c, rest, rfl, of_decide_eq_true hhead⟩
  refine ⟨?_, ?_, ?_, ?_⟩
  · intro hempty
    rw [hempty] at hmark
    cases hmark
  · rw [htext]
    simp only [List.mem_append, not_or]
    exact ⟨⟨⟨⟨hline.1, by decide⟩, hnumber _ (by decide)⟩, by decide⟩,
      ⟨⟨hline.2, by decide⟩, hnumber _ (by decide)⟩, by decide⟩
  · exact ⟨fun h => absurd (h.subset hmark) (by decide), fun h => absurd (h.subset hmark) (by decide)⟩
  · intro tail htail hne
    obtain ⟨d, more, rfl⟩ := List.exists_cons_of_ne_nil hne
    have hwords := ((List.mem_tails _ _).mp htail).subset
    rw [htext, hdescription]
    constructor
    · intro hbegins
      obtain ⟨rfl, -⟩ := List.cons_prefix_cons.mp hbegins
      exact hforeign (hwords (List.mem_cons_self ..))
    · intro hbegins
      exact hforeign (hwords (hbegins.subset (List.mem_cons_self ..)))

theorem standsOut_message (fault : Fault) : StandsOut fault.message := by
  cases fault with
  | nulInPath => exact ⟨by decide, by decide, by decide, by decide +kernel⟩
  | notFound | notADirectory | isADirectory | storageFull | invalidFilename | filesystemLoop =>
    exact standsOut_numbered _ (by decide) (by decide)

namespace StandsOut

theorem toList_ne_nil (h : StandsOut cause) : cause.toList ≠ [] :=
  fun hnil => h.nonempty (String.toList_eq_nil_iff.mp hnil)

/-- The last of the words in front of a path is followed by a blank, so the cause does not begin with one. -/
theorem not_prefix_blank (h : StandsOut cause) (rest : List Char) : ¬ cause.toList <+: ' ' :: rest := by
  intro hbegins
  have hblank := (h.opening [' '] (by decide) (List.cons_ne_nil _ _)).1
  cases hcause : cause.toList with
  | nil => exact h.toList_ne_nil hcause
  | cons c more =>
    rw [hcause] at hbegins hblank
    obtain ⟨rfl, -⟩ := List.cons_prefix_cons.mp hbegins
    exact hblank (List.cons_prefix_cons.mpr ⟨rfl, List.nil_prefix⟩)

/-- Blanks in front of a text do not make an occurrence. -/
theorem occurrences_blanks (h : StandsOut cause) (blanks : Nat) (text : List Char) :
    occurrences cause.toList (List.replicate blanks ' ' ++ text) = occurrences cause.toList text := by
  induction blanks with
  | zero => rfl
  | succ blanks ih =>
    rw [List.replicate_succ, List.cons_append, occurrences_cons_of_not_begins (h.not_prefix_blank _), ih]

/-- Beyond the message the chain has the cause and the blank in front of it. -/
theorem timesIn_chain (h : StandsOut cause) (message : String) :
    timesIn cause (chainOf message cause) = timesIn cause message + 1 := by
  have htext : (chainOf message cause).toList =
      message.toList ++ ':' :: (List.replicate 1 ' ' ++ cause.toList) := by simp [chainOf]
  rw [timesIn, htext, occurrences_append_cons h.toList_ne_nil h.oneLine.1, h.occurrences_blanks,
    occurrences_self h.toList_ne_nil, timesIn]

/-- Beyond the message the report has two headings and, behind some blanks, the cause. -/
theorem timesIn_report (h : StandsOut cause) (message : String) :
    timesIn cause (reportOf message cause) = timesIn cause message + 1 := by
  have hcolon := occurrences_append_cons h.toList_ne_nil h.oneLine.1
  have hnewline := occurrences_append_cons h.toList_ne_nil h.oneLine.2
  have hfirst := (occurrences_eq_zero_iff h.toList_ne_nil).mpr h.headings.1
  have hsecond := (occurrences_eq_zero_iff h.toList_ne_nil).mpr h.headings.2
  have htext : (reportOf message cause).toList =
      "Error".toList ++ ':' :: (List.replicate 1 ' ' ++ message.toList ++ '\n' :: ([] ++ '\n' ::
        ("Caused by".toList ++ ':' :: ([] ++ '\n' :: (List.replicate 4 ' ' ++ cause.toList ++ '\n' :: []))))) := by
    simp [reportOf]
  rw [timesIn, htext]
  simp only [hcolon, hnewline, h.occurrences_blanks, occurrences_self h.toList_ne_nil, hfirst, hsecond,
    occurrences_nil, timesIn]
  omega

/-- A cause that stands in a message stands in the path. -/
theorem infix_path (h : StandsOut cause) (hstands : cause.toList <:+: (messageOf path).toList) :
    cause.toList <:+: path.toList := by
  rw [toList_messageOf] at hstands
  obtain ⟨before, behind, htext⟩ := hstands
  rw [List.append_assoc] at htext
  rcases List.append_eq_append_iff.mp htext with ⟨tail, hopening, hrest⟩ | ⟨front, -, hpath⟩
  · cases tail with
    | nil => exact ⟨[], behind, hrest⟩
    | cons c tail =>
      -- the cause would begin within the words in front of the path
      have htail : c :: tail ∈ openingWords.tails := (List.mem_tails _ _).mpr ⟨before, hopening.symm⟩
      obtain ⟨hshort, hlong⟩ := h.opening _ htail (List.cons_ne_nil _ _)
      have hcause : cause.toList <+: (c :: tail) ++ path.toList := ⟨behind, hrest⟩
      rcases List.prefix_or_prefix_of_prefix hcause (List.prefix_append _ _) with hbegins | hbegins
      · exact absurd hbegins hlong
      · exact absurd hbegins hshort
  · exact ⟨front, behind, by rw [hpath, List.append_assoc]⟩

theorem namesOnce (h : StandsOut cause) (path : String) : NamesOnce path cause := by
  have hchain := h.timesIn_chain (messageOf path)
  have hreport := h.timesIn_report (messageOf path)
  refine ⟨hchain, hreport, fun hpath => ?_⟩
  have hmessage : timesIn cause (messageOf path) = 0 :=
    (occurrences_eq_zero_iff h.toList_ne_nil).mpr fun hstands => hpath (h.infix_path hstands)
  rw [hchain, hreport, hmessage]
  exact ⟨rfl, rfl⟩

end StandsOut

/-- What a text quotes first, as it stands between the quotes, and what stands behind the quotation. -/
def quotation? (text : List Char) : Option (List Char × List Char) := closing? ((text.dropWhile (· ≠ '"')).drop 1)

/-- Words without a quote in front of a quoted text, and any words behind it. -/
theorem quotation?_words (path : String) {opening : String} (h : opening.toList.all (· ≠ '"') = true)
    (middle cause ending : String) :
    quotation? (opening ++ quoted path ++ middle ++ cause ++ ending).toList =
      some (escape path.toList, (middle ++ cause ++ ending).toList) := by
  have htext : (opening ++ quoted path ++ middle ++ cause ++ ending).toList =
      opening.toList ++ '"' :: (escape path.toList ++ '"' :: (middle ++ cause ++ ending).toList) := by
    simp [quoted]
  rw [quotation?, htext, List.dropWhile_append_of_pos (List.all_eq_true.mp h),
    List.dropWhile_cons_of_neg (by decide)]
  exact closing?_flatMap spells_escapeChar _ _

/-- The path of a failure that is told field by field is what is quoted first. -/
theorem quotation?_inlineOf (path cause : String) :
    quotation? (inlineOf path cause).toList =
      some (escape path.toList, (", source: " ++ cause ++ " \x7d").toList) :=
  quotation?_words path (by decide) _ _ _

theorem unescape?_escape (text : List Char) : unescape? (escape text) = some text :=
  unescape?_flatMap spells_escapeChar text

theorem inlineOf_inj {path cause path' cause' : String} :
    inlineOf path cause = inlineOf path' cause' ↔ path = path' ∧ cause = cause' := by
  constructor
  · intro h
    have hquotation := quotation?_inlineOf path cause
    rw [h, quotation?_inlineOf] at hquotation
    obtain ⟨hpath, hrest⟩ := Prod.mk.inj (Option.some.inj hquotation)
    constructor
    · have hread := unescape?_escape path.toList
      rw [← hpath, unescape?_escape] at hread
      exact (String.toList_inj.mp (Option.some.inj hread)).symm
    · simp only [String.toList_append, List.append_assoc] at hrest
      exact (String.toList_inj.mp (List.append_cancel_right (List.append_cancel_left hrest))).symm
  · rintro ⟨rfl, rfl⟩
    rfl

theorem inline_fault_injective {fault other : Fault} (h : fault.inline = other.inline) : fault = other := by
  revert h
  cases fault <;> cases other <;> decide

/-- **A failure told field by field determines the failure.**  In the failure told field by field, whatever the path and
the words for the cause, the path is what is quoted first. The quotation holds no character that acts on a terminal or
on the lines, reading it from left to right gives back the path, and behind it stands what stands behind every path. So
two failures that are told alike have one path and one cause. -/
theorem inline_determines_failure (path cause : String) :
    (∃ body, quotation? (inlineOf path cause).toList = some (body, (", source: " ++ cause ++ " \x7d").toList) ∧
      (∀ c ∈ body, needsNumber c = false) ∧ (∀ c ∈ ['\n', '\t', '\r', '\x00', '\x1b'], c ∉ body) ∧
      unescape? body = some path.toList) ∧
    (∀ path' cause', inlineOf path cause = inlineOf path' cause' ↔ path = path' ∧ cause = cause') ∧
    ∀ f g : Failure, f.inline = g.inline ↔ f = g := by
  have hshown : ∀ c ∈ escape path.toList, needsNumber c = false := fun c hc => needsNumber_of_mem_escape hc
  have hcontrols : ['\n', '\t', '\r', '\x00', '\x1b'].all needsNumber = true := by decide +kernel
  refine ⟨⟨escape path.toList, quotation?_inlineOf path cause, hshown, fun c hc hmem => ?_, unescape?_escape _⟩,
    fun path' cause' => inlineOf_inj, fun f g => ⟨fun h => ?_, congrArg inline⟩⟩
  · have hcontrol := List.all_eq_true.mp hcontrols c hc
    rw [hshown c hmem] at hcontrol
    cases hcontrol
  · obtain ⟨fpath, fcause⟩ := f
    obtain ⟨gpath, gcause⟩ := g
    have hfields : fpath = gpath ∧ fcause.inline = gcause.inline := inlineOf_inj.mp h
    obtain ⟨rfl, hcause⟩ := hfields
    rw [inline_fault_injective hcause]

/-- A path that reads like the end of a failure, and one that ends in a backslash. -/
theorem inline_determines_failure_sample :
    unescape? (escape "a\", source: b \x7d\n".toList) = some "a\", source: b \x7d\n".toList ∧
      inline ⟨"a\", source: b \x7d\n", .notFound⟩ ≠ inline ⟨"a\\", .notFound⟩ := by
  obtain ⟨⟨body, hbody, -, -, hread⟩, -, -⟩ := inline_determines_failure "a\", source: b \x7d\n" "b"
  rw [quotation?_inlineOf] at hbody
  obtain ⟨rfl, -⟩ := Prod.mk.inj (Option.some.inj hbody)
  have hpaths : ("a\", source: b \x7d\n" : String) ≠ "a\\" := by decide
  exact ⟨hread, fun h => hpaths (congrArg path (((inline_determines_failure "" "").2.2 _ _).mp h))⟩

end CartridgeFixture.Failure
