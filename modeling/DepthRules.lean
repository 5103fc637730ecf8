import DepthRules.Engine.Recorder
import DepthRules.Main
import DepthRules.Match.Check
import DepthRules.Node.Plain
import DepthRules.Proofs.CommandLine.Display
import DepthRules.Proofs.CommandLine.Output
import DepthRules.Proofs.CommandLine.Settings
import DepthRules.Proofs.Console.Cell
import DepthRules.Proofs.Engine.Independence
import DepthRules.Proofs.Engine.Reads
import DepthRules.Proofs.Match.Json
import DepthRules.Proofs.Node.Order
import DepthRules.Proofs.Pass
import DepthRules.Proofs.Rule.Inheritance
import DepthRules.Proofs.Rule.Listing
import DepthRules.Proofs.Rule.Refusal
import DepthRules.Proofs.Rule.Shape
import DepthRules.Proofs.Rule.Supply
import DepthRules.Proofs.Xml.Copy
import DepthRules.Proofs.Xml.Prefixes
