import TapHold.Command
import TapHold.Main
import TapHold.Proofs.Dispatch
import TapHold.Proofs.HeldHands
import TapHold.Proofs.HomeRowDecision
import TapHold.Proofs.Release
import TapHold.Proofs.LayerOrder
import TapHold.Proofs.HeldLetter
import TapHold.Proofs.LayerOpacity
import TapHold.Proofs.Acceptance
import TapHold.Proofs.Faultless
import TapHold.Proofs.KeymapShape
import TapHold.Proofs.DictChanges
import TapHold.Proofs.HomeRowRemoval
import TapHold.Proofs.LayerRemoval
import TapHold.Proofs.FindingsOfLayers
import TapHold.Proofs.TrimmedLayers
import TapHold.Proofs.FindingsAgree
import TapHold.Proofs.ActionOrder
import TapHold.Proofs.HoldTimers
import TapHold.Proofs.ParentWalk
import TapHold.Proofs.VarOwners
import TapHold.Proofs.FirstFault
import TapHold.Proofs.SubsetSweep
import TapHold.Proofs.TimingChange
import TapHold.Proofs.DocumentReading
import TapHold.Proofs.ReachedRules
import TapHold.Proofs.RuleCensus
import TapHold.Proofs.ReportedCycle
import TapHold.Proofs.VarCensus
import TapHold.Proofs.LayoutReading
import TapHold.Proofs.BindingText
import TapHold.Proofs.LayoutTables
import TapHold.Proofs.DocumentValues
import TapHold.Proofs.MirroredLayout
import TapHold.Proofs.RuleText
import TapHold.Proofs.FirstClash
import TapHold.Proofs.Views
