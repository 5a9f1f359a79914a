import CartridgeFixture.Log.Event
import CartridgeFixture.Terminal.Style
import CartridgeFixture.Text.Padding

/-!
Log lines: the time, the level in five columns, the message, and each field as its name, an equals sign and its
value. Styles set off all but message and values; values are written as they are.
-/
namespace CartridgeFixture.Log

/-- The style of a level. -/
def styleOf : LogLevel → Terminal.Style
  | .error => .red
  | .warn => .yellow
  | .info => .green
  | .debug => .blue
  | .trace => .magenta

/-- One field, with the blank in front of it. -/
def fieldText (colour : Bool) (field : String × FieldValue) : List Char :=
  ' ' :: (Terminal.paint colour .italic field.1.toList ++ Terminal.paint colour .dim ['='] ++
    field.2.shown.toList)

/-- The line of an event, its end included. -/
def line (colour : Bool) (time : String) (e : Event) : String :=
  String.ofList (
    Terminal.paint colour .dim time.toList ++ [' '] ++
    Terminal.paint colour (styleOf e.level) (Text.padLeft ' ' 5 e.level.label.toList) ++ [' '] ++
    e.message.toList ++ e.fields.flatMap (fieldText colour) ++ ['\n'])

end CartridgeFixture.Log
