import CartridgeFixture.CommandLine.Option
import CartridgeFixture.Text.Similarity

/-!
The option that somebody may have meant who gave a name that no option has.
-/
namespace CartridgeFixture.CommandLine

/-- The more similar of two candidates; of two that are alike, the later. -/
def betterOf (best? : Option (Float × Switch)) (candidate : Float × Switch) : Option (Float × Switch) :=
  match best? with
  | none => some candidate
  | some best => if candidate.1 < best.1 then some best else some candidate

/-- The option with the long name most similar to the given one, if it is similar enough. -/
def similarTo (name : List Char) : Option Switch :=
  let rated := Switch.all.map fun s => (Text.similarity name s.longName, s)
  ((rated.filter fun e => 0.7 < e.1).foldl betterOf none).map Prod.snd

end CartridgeFixture.CommandLine
