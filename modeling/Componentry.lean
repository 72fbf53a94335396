import Componentry.Main
import Componentry.Proofs.Ends
import Componentry.Proofs.Faults
import Componentry.Proofs.Growth
import Componentry.Proofs.Edits
import Componentry.Proofs.Reading
import Componentry.Proofs.Slots
import Componentry.Proofs.Declared
import Componentry.Proofs.Declaring
import Componentry.Proofs.TypekitImports
import Componentry.Proofs.TypeLookups
import Componentry.Proofs.ComponentDeclarations
import Componentry.Proofs.Replaying
import Componentry.Proofs.Upholding
import Componentry.Proofs.LibraryImports
import Componentry.Proofs.Declarations
import Componentry.Proofs.LibraryCycles
import Componentry.Proofs.Evolution
import Componentry.Proofs.Steps
import Componentry.Proofs.DefinitionPermanence
import Componentry.Proofs.FilePlaces
import Componentry.Proofs.FileChanges
import Componentry.Proofs.GeneratedFiles
import Componentry.Proofs.UserFiles
import Componentry.Proofs.Deliveries
import Componentry.Proofs.GeneratedOutputs
import Componentry.Proofs.TypelistText
import Componentry.Proofs.ScopeLookups
import Componentry.Proofs.DistinctNames
import Componentry.Proofs.TypeClosures
import Componentry.Proofs.OpaqueChecks
import Componentry.Proofs.OwnTypekits
import Componentry.Proofs.ConversionFunctions
import Componentry.Proofs.WrittenDescriptions
import Componentry.Proofs.Collecting
import Componentry.Proofs.DataMembers
import Componentry.Proofs.GeneratedMethods
import Componentry.Proofs.ComponentFrames
import Componentry.Proofs.FrozenModels
import Componentry.Proofs.TypekitUses
import Componentry.Proofs.TypekitOrder
import Componentry.Proofs.PortTriggers
import Componentry.Proofs.FailedOpaques
import Componentry.Proofs.FailedDeclarations
import Componentry.Proofs.MinimalRegistries
import Componentry.Proofs.NameSpacing
import Componentry.Proofs.NameSpellings
import Componentry.Proofs.CodeSpellings
import Componentry.Proofs.SlotHistories
import Componentry.Proofs.SlotPrograms
import Componentry.Proofs.TypelistEntries
import Componentry.Proofs.BaseClassParts
import Componentry.Proofs.GenerationFailures
import Componentry.Proofs.InitialStates
import Componentry.Proofs.ConstructorCalls
import Componentry.Proofs.ShortNames
import Componentry.Proofs.BaseClassIncludes
import Componentry.Proofs.MissedTypes
import Componentry.Proofs.PointerTypes
import Componentry.Proofs.TextLiterals
import Componentry.Proofs.DescribedTypekits
import Componentry.Proofs.DerivedClasses
import Componentry.Proofs.KeptTemplates
import Componentry.Proofs.WorkspaceReadings
import Componentry.Proofs.InternalTypes
import Componentry.Proofs.Ancestry
import Componentry.Proofs.StaleConstructors
