import CartridgeFixture.Main
import CartridgeFixture.Flag.Step
import CartridgeFixture.FileSystem.Listing
import CartridgeFixture.Proofs.CommandLine.Grammar
import CartridgeFixture.Proofs.CommandLine.Refinement
import CartridgeFixture.Proofs.Flag.RoundTrip
import CartridgeFixture.Proofs.Generation.Order
import CartridgeFixture.Proofs.Generation.Success
import CartridgeFixture.Proofs.Flag.Agreement
import CartridgeFixture.Proofs.Flag.Undeclared
import CartridgeFixture.Proofs.Generation.Logging
import CartridgeFixture.Proofs.CommandLine.Outcomes
import CartridgeFixture.Proofs.CommandLine.Decision
import CartridgeFixture.Proofs.Flag.Idle
import CartridgeFixture.Proofs.Image.Window
import CartridgeFixture.Proofs.CommandLine.Appearance
import CartridgeFixture.Proofs.Image.Slice
import CartridgeFixture.Proofs.FileSystem.Composition
import CartridgeFixture.Proofs.Generation.Relative
import CartridgeFixture.Proofs.Flag.Reading
import CartridgeFixture.Proofs.Generation.Report
import CartridgeFixture.Proofs.CommandLine.Level
import CartridgeFixture.Proofs.CommandLine.Refusal
