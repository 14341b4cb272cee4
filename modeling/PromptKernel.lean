import PromptKernel.Config.Files
import PromptKernel.Environments
import PromptKernel.Function.Descriptor
import PromptKernel.Function.Script
import PromptKernel.Kernel.Builder
import PromptKernel.Kernel.Run
import PromptKernel.Proofs.CallAgreement
import PromptKernel.Proofs.Cancellation
import PromptKernel.Proofs.ErrorOrigins
import PromptKernel.Proofs.HelperNames
import PromptKernel.Proofs.LookupCoherence
import PromptKernel.Proofs.MessageSigils
import PromptKernel.Proofs.RawBlocks
import PromptKernel.Proofs.RenderedTurns
import PromptKernel.Proofs.TemplateCalls
import PromptKernel.Proofs.TranscriptSegments
import PromptKernel.Proofs.UnrelatedBindings
import PromptKernel.Proofs.BuilderCalls
import PromptKernel.Proofs.RegistrationOrder
import PromptKernel.Proofs.VariableWrites
import PromptKernel.Proofs.RenderedWrites
import PromptKernel.Proofs.VariableFrame
import PromptKernel.Proofs.BindingOutcomes
import PromptKernel.Proofs.CursorReading
import PromptKernel.Proofs.RawBlockPlaces
import PromptKernel.Proofs.SubmittedTurns
import PromptKernel.Proofs.SelectionOrder
import PromptKernel.Proofs.HandlerArguments
import PromptKernel.Proofs.DescriptorChecks
import PromptKernel.Proofs.ParameterSchemas
import PromptKernel.Proofs.StoredHistory
import PromptKernel.Proofs.IncludedLookups
import PromptKernel.Proofs.RemoteRequests
import PromptKernel.Proofs.CompletionAnswers
