import NativeThunks.Files.Tree
import NativeThunks.Main
import NativeThunks.Native.Block
import NativeThunks.Native.Boolean
import NativeThunks.Native.Slot
import NativeThunks.Samples
import NativeThunks.Proofs.PlanStages
import NativeThunks.Proofs.LexedNames
import NativeThunks.Proofs.SelectionRuns
import NativeThunks.Proofs.ContainerOutcomes
import NativeThunks.Proofs.EmittedPositions
import NativeThunks.Proofs.DeclarationAccounting
import NativeThunks.Proofs.UnitForm
import NativeThunks.Proofs.PathDecomposition
import NativeThunks.Proofs.Regeneration
import NativeThunks.Proofs.SplicedTexts
import NativeThunks.Proofs.FolderPaths
import NativeThunks.Proofs.UnitFiles
import NativeThunks.Proofs.NativeTypes
import NativeThunks.Proofs.RenderedLines
import NativeThunks.Proofs.DiagnosticLevels
import NativeThunks.Proofs.FileClaims
import NativeThunks.Proofs.WrapperTables
import NativeThunks.Proofs.RenderingOptions
import NativeThunks.Proofs.UnitHeader
import NativeThunks.Proofs.SourceSections
import NativeThunks.Proofs.ScalarWrapping
import NativeThunks.Proofs.Appending
import NativeThunks.Proofs.UnitTables
import NativeThunks.Proofs.JsonTexts
import NativeThunks.Proofs.JsonReading
import NativeThunks.Proofs.Restatements
import NativeThunks.Proofs.RecordReading
import NativeThunks.Proofs.SetDocuments
import NativeThunks.Proofs.TypeDocuments
import NativeThunks.Proofs.TomlQuotes
import NativeThunks.Proofs.TomlLines
import NativeThunks.Proofs.ConfigDocuments
import NativeThunks.Proofs.CommandRuns
import NativeThunks.Proofs.CommandAgreement
import NativeThunks.Proofs.TreePlaces
import NativeThunks.Proofs.FileChanges
import NativeThunks.Proofs.TextOwnership
import NativeThunks.Proofs.ReceiverBinding
import NativeThunks.Proofs.CharacterTables
import NativeThunks.Proofs.CaseChange
import NativeThunks.Proofs.Identifiers
import NativeThunks.Proofs.ThunkNames
import NativeThunks.Proofs.FunctionNames
import NativeThunks.Proofs.WholeWords
import NativeThunks.Proofs.ModuleNames
import NativeThunks.Proofs.GrammarDepth
import NativeThunks.Proofs.ClosingBrackets
import NativeThunks.Proofs.BracketedTypes
import NativeThunks.Proofs.TightTypes
import NativeThunks.Proofs.BracketedLiterals
import NativeThunks.Proofs.BracketedTexts
import NativeThunks.Proofs.TypeFronts
import NativeThunks.Proofs.SpelledTypes
import NativeThunks.Proofs.RenderedTypes
import NativeThunks.Proofs.CallPositions
import NativeThunks.Proofs.WrapperNumbering
import NativeThunks.Proofs.LegalMembers
import NativeThunks.Proofs.BodyStatements
import NativeThunks.Proofs.ThunkScopes
import NativeThunks.Proofs.FirstServed
import NativeThunks.Proofs.DiagnosticSummaries
import NativeThunks.Proofs.HelperLocals
import NativeThunks.Proofs.Utf8Reading
import NativeThunks.Proofs.TextPassing
import NativeThunks.Proofs.SlotCalls
import NativeThunks.Proofs.SymbolTables
import NativeThunks.Proofs.OrdinaryNames
import NativeThunks.Proofs.SnakeCase
import NativeThunks.Proofs.AccessorSymbols
import NativeThunks.Proofs.UnitWriters
import NativeThunks.Proofs.BlockDepth
import NativeThunks.Proofs.TidyLines
import NativeThunks.Proofs.Indentation
