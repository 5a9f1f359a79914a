/-!
Text widened to a given number of characters. A text that is wide enough already is left as it is.
-/
namespace CartridgeFixture.Text

/-- Fills up in front, so that the text stands at the right. -/
def padLeft (fill : Char) (width : Nat) (text : List Char) : List Char :=
  List.replicate (width - text.length) fill ++ text

/-- Fills up behind, so that the text stands at the left. -/
def padRight (fill : Char) (width : Nat) (text : List Char) : List Char :=
  text ++ List.replicate (width - text.length) fill

/-- Fills up on both sides; an odd character out goes behind. -/
def centre (fill : Char) (width : Nat) (text : List Char) : List Char :=
  let missing := width - text.length
  List.replicate (missing / 2) fill ++ text ++ List.replicate (missing - missing / 2) fill

end CartridgeFixture.Text
