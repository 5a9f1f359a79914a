/-!
Styled text: between a sequence that sets a style and the one that resets it.
-/
namespace CartridgeFixture.Terminal

/-- A style of text, given by the number that selects it. -/
inductive Style where
  | dim
  | italic
  | red
  | green
  | yellow
  | blue
  | magenta
  deriving DecidableEq, Repr

/-- The number that selects a style. -/
def Style.code : Style → List Char
  | .dim => ['2']
  | .italic => ['3']
  | .red => ['3', '1']
  | .green => ['3', '2']
  | .yellow => ['3', '3']
  | .blue => ['3', '4']
  | .magenta => ['3', '5']

/-- The sequence that selects the style of a number. -/
def selectStyle (code : List Char) : List Char := '\x1b' :: '[' :: (code ++ ['m'])

/-- A text in a style, or as it is where colours are off. -/
def paint (colour : Bool) (style : Style) (text : List Char) : List Char :=
  if colour then selectStyle style.code ++ text ++ selectStyle ['0'] else text

end CartridgeFixture.Terminal
