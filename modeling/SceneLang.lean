import SceneLang.Evaluation.Preview
import SceneLang.Geometry.Same
import SceneLang.Main
import SceneLang.Proofs.Alignments
import SceneLang.Proofs.BareCalls
import SceneLang.Proofs.BlockNames
import SceneLang.Proofs.CallDepth
import SceneLang.Proofs.Cancellation
import SceneLang.Proofs.ChildKinds
import SceneLang.Proofs.Composition
import SceneLang.Proofs.EndlessRanges
import SceneLang.Proofs.ErrorPlaces
import SceneLang.Proofs.Excerpts
import SceneLang.Proofs.ExpressionFrame
import SceneLang.Proofs.FontNames
import SceneLang.Proofs.GeometryCodec
import SceneLang.Proofs.GeometryFaults
import SceneLang.Proofs.GeometryImport
import SceneLang.Proofs.HexColors
import SceneLang.Proofs.ImportErrors
import SceneLang.Proofs.ImportInlining
import SceneLang.Proofs.ImportStack
import SceneLang.Proofs.ImportWrappers
import SceneLang.Proofs.LoopTurns
import SceneLang.Proofs.Members
import SceneLang.Proofs.NestedBlocks
import SceneLang.Proofs.NestedCalls
import SceneLang.Proofs.NodePlaces
import SceneLang.Proofs.NormalForms
import SceneLang.Proofs.ProgramCodec
import SceneLang.Proofs.ProgramFaults
import SceneLang.Proofs.Progressions
import SceneLang.Proofs.ScriptFaults
import SceneLang.Proofs.Termination
import SceneLang.Proofs.UnknownNames
