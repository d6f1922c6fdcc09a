import ShaderLoom.Digest.Xxh3
import ShaderLoom.Glsl.Scan
import ShaderLoom.Gpu.Program
import ShaderLoom.Gpu.Scripted
import ShaderLoom.Log
import ShaderLoom.Loom
import ShaderLoom.Proofs.AliasChains
import ShaderLoom.Proofs.BuildVerdicts
import ShaderLoom.Proofs.CacheTransparency
import ShaderLoom.Proofs.CallStatements
import ShaderLoom.Proofs.Coalescing
import ShaderLoom.Proofs.Comments
import ShaderLoom.Proofs.Compilation
import ShaderLoom.Proofs.Dataflow
import ShaderLoom.Proofs.DeadRequests
import ShaderLoom.Proofs.DeclarationGrammar
import ShaderLoom.Proofs.DeclarationLines
import ShaderLoom.Proofs.DeclarationOrder
import ShaderLoom.Proofs.DeclaredVariables
import ShaderLoom.Proofs.DeviceObjects
import ShaderLoom.Proofs.Drafts
import ShaderLoom.Proofs.EffectiveStreams
import ShaderLoom.Proofs.Encoding
import ShaderLoom.Proofs.Expressions
import ShaderLoom.Proofs.FailedReleases
import ShaderLoom.Proofs.FaultRecovery
import ShaderLoom.Proofs.FingerprintSoundness
import ShaderLoom.Proofs.FoldSafety
import ShaderLoom.Proofs.FragmentWiring
import ShaderLoom.Proofs.FrameText
import ShaderLoom.Proofs.FreshNames
import ShaderLoom.Proofs.FunctionCalls
import ShaderLoom.Proofs.FunctionDefinitions
import ShaderLoom.Proofs.Generation
import ShaderLoom.Proofs.GraphHistory
import ShaderLoom.Proofs.HelperCalls
import ShaderLoom.Proofs.HelperDefinitions
import ShaderLoom.Proofs.Introspection
import ShaderLoom.Proofs.LocationCaches
import ShaderLoom.Proofs.LookedUpLocations
import ShaderLoom.Proofs.LoweringTotality
import ShaderLoom.Proofs.MergedDeclarations
import ShaderLoom.Proofs.MorphTargets
import ShaderLoom.Proofs.NamingBudget
import ShaderLoom.Proofs.NormalForm
import ShaderLoom.Proofs.ObjectLifetimes
import ShaderLoom.Proofs.PersistedStates
import ShaderLoom.Proofs.ProgramEpochs
import ShaderLoom.Proofs.ProgramHistory
import ShaderLoom.Proofs.ProgramSharing
import ShaderLoom.Proofs.ProgramStates
import ShaderLoom.Proofs.ProgramVerdicts
import ShaderLoom.Proofs.RepeatedRequests
import ShaderLoom.Proofs.RequestedProducers
import ShaderLoom.Proofs.ShaderCustody
import ShaderLoom.Proofs.SharedBlocks
import ShaderLoom.Proofs.SilentSnippets
import ShaderLoom.Proofs.SingleAssignment
import ShaderLoom.Proofs.SlotSubstitution
import ShaderLoom.Proofs.SnippetRendering
import ShaderLoom.Proofs.StageEnvelope
import ShaderLoom.Proofs.StepLogic
import ShaderLoom.Proofs.StreamBits
import ShaderLoom.Proofs.SymbolRequests
import ShaderLoom.Proofs.TextCuts
import ShaderLoom.Proofs.TopologicalSchedule
import ShaderLoom.Proofs.Transforms
import ShaderLoom.Proofs.Traversal
import ShaderLoom.Proofs.TypedTerms
import ShaderLoom.Proofs.Unfolding
import ShaderLoom.Proofs.UniformAgreement
import ShaderLoom.Proofs.VaryingAgreement
import ShaderLoom.Proofs.VertexDataflow
import ShaderLoom.Proofs.VertexWiring
import ShaderLoom.Proofs.Vocabulary
import ShaderLoom.Proofs.WiringLogic
import ShaderLoom.Proofs.WriterOrder
import ShaderLoom.RenderState.Fingerprint
import ShaderLoom.RenderState.Persistence
import ShaderLoom.Settings
import ShaderLoom.Snippet.Library
import ShaderLoom.Stage.Graph
import ShaderLoom.Stage.Lowering
import ShaderLoom.Stage.Source
import ShaderLoom.Template.Basic
import ShaderLoom.Uniform.Block
import ShaderLoom.Wiring.Stages
