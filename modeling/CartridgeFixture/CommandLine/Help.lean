import CartridgeFixture.CommandLine.UsageError
import CartridgeFixture.Generation

/-!
The help text.
-/
namespace CartridgeFixture.CommandLine

/-- What the program is for, how it is called, and what its options do. -/
def helpText : String :=
  "Writes the minimal NROM test cartridge image\n\n" ++ UsageError.usageLine [] ++
  "Options:\n" ++
  "  -o, --output <OUTPUT>        Destination file; its directory must already exist [default: " ++
  Generation.defaultPath ++ "]\n" ++
  "  -l, --log-level <LOG_LEVEL>  Log level (trace, debug, info, warn, error) [default: warn]\n" ++
  "  -h, --help                   Print help\n"

end CartridgeFixture.CommandLine
