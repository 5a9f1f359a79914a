import CartridgeFixture.Proofs.Generation.Effect
import CartridgeFixture.Proofs.Image.Slice

/-!
# Logging only observes

A program does not hear of the level up to which an observer listens: the answers to its writes, and so everything it
does, are the same at every level, and of the events of a dialogue a level picks some without changing their order
(`Dialogue.observe_eq_collected`). This holds of every dialogue, by induction over its requests.

A generation tells of its write in one event before it and one after it if it succeeds. What the events say of sizes is
computed in three places: the length of the image, the sizes that its header announces, and the file that is there
in the end. They are the same number (`logging_only_observes`).
-/
namespace CartridgeFixture

open FileSystem

/-- **An observer of some level sees what one of every level sees**, but for the events that are not enabled. -/
theorem Dialogue.observe_eq_collected {α : Type} (most : LogLevel) (fs : FileSystem) (d : Dialogue Fault α) :
    d.observe most fs =
      { d.observe .trace fs with events := Event.collected most (d.observe .trace fs).events } := by
  induction d generalizing fs with
  | done => rfl
  | tell event rest ih =>
    rw [observe, ih]
    simp only [observe, LogLevel.enabledAt_trace, if_true]
    split
    · rename_i henabled
      simp [Event.collected, henabled]
    · rename_i hdisabled
      simp [Event.collected, hdisabled]
  | write path bytes rest ih => exact ih _ _

theorem generateAt_eq (most : LogLevel) (fs : FileSystem) (path : String) :
    generateAt most fs path =
      { generateTo fs path with events := Event.collected most (generateTo fs path).events } := by
  unfold generateTo generateAt
  rw [Dialogue.observe_eq_collected]

/-- A generation that succeeds has written to a device, or leaves its path leading to a file that holds the image. -/
theorem holds_image_of_success {fs : FileSystem} {path : String} (h : (generateTo fs path).failure? = none) :
    (∃ kind, fs.destination path = .ok (.device kind)) ∨
      ∃ number, (generateTo fs path).fileSystem.destination path = .ok (.file number) ∧
        (generateTo fs path).fileSystem.content number = Image.bytes := by
  rw [generateTo_failure?] at h
  rw [generateTo_fileSystem]
  rcases fs.writeFile_cases path Image.bytes with ⟨fault, heq⟩ | ⟨kind, hdest, -⟩ | ⟨_, number, _, hdest, hwrites, heq⟩
  · rw [heq] at h
    cases h
  · exact Or.inl ⟨kind, hdest⟩
  · rw [heq]
    exact Or.inr ⟨number, hwrites.leads hdest, hwrites.replaced.content⟩

/-- The event after the write is told by a generation that succeeds, and by no other. -/
theorem generateTo_events_eq (fs : FileSystem) (path : String) :
    (generateTo fs path).events =
      Generation.opening path :: if (generateTo fs path).failure? = none then [Generation.closing path] else [] := by
  rw [generateTo_events, generateTo_failure?]
  cases (fs.writeFile path Image.bytes).1 <;> rfl

theorem eq_closing_of_info {fs : FileSystem} {path : String} {event : Event}
    (h : event ∈ (generateTo fs path).events) (hlevel : event.level = .info) :
    (generateTo fs path).failure? = none ∧ event = Generation.closing path := by
  rw [generateTo_events_eq] at h
  rcases List.mem_cons.mp h with rfl | h
  · cases hlevel
  · split at h
    · rename_i hnone
      exact ⟨hnone, List.mem_singleton.mp h⟩
    · cases h

theorem eq_opening_of_debug {fs : FileSystem} {path : String} {event : Event}
    (h : event ∈ (generateTo fs path).events) (hlevel : event.level = .debug) : event = Generation.opening path := by
  rw [generateTo_events_eq] at h
  rcases List.mem_cons.mp h with rfl | h
  · rfl
  · split at h
    · cases List.mem_singleton.mp h
      cases hlevel
    · cases h

/-- **Logging observes a generation and has no part in it.**  At every level the outcome is the same, and the events are
those of all levels that are enabled, in the same order. These are one before the write and, if and only if that
succeeds, one after it, and both bear the path as it was given. Whenever the second is told, the sizes that it announces
make up the length that the first tells, and unless the path leads to a device, that is the length of the file to
which it leads then. -/
theorem logging_only_observes (fs : FileSystem) (path : String) :
    (∀ most, (generateAt most fs path).events = Event.collected most (generateAt .trace fs path).events ∧
      (generateAt most fs path).failure? = (generateAt .trace fs path).failure? ∧
      (generateAt most fs path).fileSystem = (generateAt .trace fs path).fileSystem) ∧
    (∃ before after : Event, before.level = .debug ∧ after.level = .info ∧
      before.fields.lookup "path" = some (.text path) ∧ after.fields.lookup "path" = some (.text path) ∧
      (generateAt .trace fs path).events =
        before :: if (generateAt .trace fs path).failure? = none then [after] else []) ∧
    ∀ most, ∀ after ∈ (generateAt most fs path).events, after.level = .info →
      ∃ prg chr length, after.fields.lookup "prg_rom" = some (.number prg) ∧
        after.fields.lookup "chr_rom" = some (.number chr) ∧
        (∀ before ∈ (generateAt .trace fs path).events, before.level = .debug →
          before.fields.lookup "len" = some (.number length)) ∧
        Header.size + prg + chr = length ∧
        ((∃ kind, fs.destination path = .ok (.device kind)) ∨
          ∃ number, (generateAt most fs path).fileSystem.destination path = .ok (.file number) ∧
            ((generateAt most fs path).fileSystem.content number).length = length) := by
  have htrace : generateAt .trace fs path = generateTo fs path := rfl
  rw [htrace]
  refine ⟨fun most => ?_, ⟨Generation.opening path, Generation.closing path, rfl, rfl, rfl, rfl,
    generateTo_events_eq fs path⟩, ?_⟩
  · rw [generateAt_eq]
    exact ⟨rfl, rfl, rfl⟩
  · intro most after hmem hlevel
    rw [generateAt_eq] at hmem ⊢
    obtain ⟨hnone, rfl⟩ := eq_closing_of_info (List.mem_filter.mp hmem).1 hlevel
    refine ⟨_, _, Image.bytes.length, rfl, rfl, ?_, Image.size_eq_announced, ?_⟩
    · intro before hbefore hdebug
      rw [eq_opening_of_debug hbefore hdebug]
      rfl
    · refine (holds_image_of_success hnone).imp id ?_
      rintro ⟨number, hleads, hcontent⟩
      exact ⟨number, hleads, congrArg List.length hcontent⟩

/-- Through two links to a file of three bytes: at the level of the second event alone, that one is told, and the file
is as long as the events say. -/
theorem logging_only_observes_sample :
    (generateAt .info Generation.sample "near").events = [Generation.closing "near"] ∧
      (Generation.closing "near").level = .info ∧
      ∃ number, (generateAt .info Generation.sample "near").fileSystem.destination "near" = .ok (.file number) ∧
        ((generateAt .info Generation.sample "near").fileSystem.content number).length = 40976 := by
  have hevents : (generateAt .info Generation.sample "near").events = [Generation.closing "near"] := rfl
  have hmem : Generation.closing "near" ∈ (generateAt .info Generation.sample "near").events := by
    rw [hevents]
    exact List.mem_singleton_self _
  obtain ⟨prg, chr, length, hprg, hchr, -, hsum, hfile⟩ :=
    (logging_only_observes Generation.sample "near").2.2 .info _ hmem rfl
  cases hprg
  cases hchr
  have hdest : Generation.sample.destination "near" = .ok (.file 7) := rfl
  rcases hfile with ⟨kind, hdevice⟩ | ⟨number, hleads, hlength⟩
  · cases hdest.symm.trans hdevice
  · exact ⟨hevents, rfl, number, hleads, hlength.trans hsum.symm⟩

end CartridgeFixture
