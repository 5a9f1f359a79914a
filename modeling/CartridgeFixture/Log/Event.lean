import CartridgeFixture.Header.Summary
import CartridgeFixture.Log.Level

/-!
What a generation tells while it runs: that it is about to write, and that it has written.
-/
namespace CartridgeFixture

/-- A log event. -/
inductive Event where
  /-- An image of the given length is about to be written to a path. -/
  | writing (path : String) (length : Nat)
  /-- The image that the summary describes has been written to a path. -/
  | wrote (path : String) (summary : Header.Summary)
  deriving DecidableEq, Repr

/-- The value of an event's field. -/
inductive FieldValue where
  | text (value : String)
  | number (value : Nat)
  deriving DecidableEq, Repr

/-- A value as it stands in a log line: texts as they are. -/
def FieldValue.shown : FieldValue → String
  | .text value => value
  | .number value => toString value

namespace Event

/-- How grave the event is. -/
def level : Event → LogLevel
  | .writing .. => .debug
  | .wrote .. => .info

/-- What happened. -/
def message : Event → String
  | .writing .. => "writing iNES fixture"
  | .wrote .. => "wrote iNES fixture"

/-- The particulars, in order. -/
def fields : Event → List (String × FieldValue)
  | .writing path length => [("path", .text path), ("len", .number length)]
  | .wrote path summary =>
    [("path", .text path), ("mapper", .number summary.mapper.toNat),
     ("mirroring", .text summary.mirroring.name), ("prg_rom", .number summary.prgSize),
     ("chr_rom", .number summary.chrSize)]

/-- The events that are logged when `most` is the most talkative level wanted. -/
def collected (most : LogLevel) (events : List Event) : List Event :=
  events.filter fun e => e.level.enabledAt most

end Event

end CartridgeFixture
