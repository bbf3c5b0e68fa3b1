import ShaderTools.Main
import ShaderTools.Proofs.TextPieces
import ShaderTools.Proofs.JoinedPaths
import ShaderTools.Proofs.TreeUpdates
import ShaderTools.Proofs.PathWalks
import ShaderTools.Proofs.EntryOperations
import ShaderTools.Proofs.InstallSteps
import ShaderTools.Proofs.InstallOutcomes
import ShaderTools.Proofs.InstalledFiles
import ShaderTools.Proofs.SetupAttempts
import ShaderTools.Proofs.ListingResults
import ShaderTools.Proofs.SetupRequests
import ShaderTools.Proofs.DownloadSource
import ShaderTools.Proofs.AcceptedAnswers
import ShaderTools.Proofs.ScriptQuestions
import ShaderTools.Proofs.LoggedRuns
import ShaderTools.Proofs.EncodedTexts
import ShaderTools.Proofs.PlatformAnswers
import ShaderTools.Proofs.WalkEnds
import ShaderTools.Proofs.AbsolutePaths
import ShaderTools.Proofs.OperationEffects
import ShaderTools.Proofs.StagedPaths
import ShaderTools.Proofs.StepRuns
import ShaderTools.Proofs.ContainedPaths
import ShaderTools.Proofs.ContainedInstalls
import ShaderTools.Proofs.UsableInstalls
import ShaderTools.Proofs.MadeDirectories
import ShaderTools.Proofs.FilledOptions
import ShaderTools.Proofs.SetupEndings
import ShaderTools.Proofs.JsonReading
import ShaderTools.Proofs.SnippetOutputs
import ShaderTools.Proofs.ContinuedListings
import ShaderTools.Proofs.DecimalNumerals
import ShaderTools.Proofs.PlatformSelections
import ShaderTools.Proofs.UniformRecords
import ShaderTools.Proofs.WrittenDeclarations
import ShaderTools.Proofs.SnippetBlocks
import ShaderTools.Proofs.JsonSpellings
import ShaderTools.Proofs.SettingLines
import ShaderTools.Proofs.SnippetArrays
import ShaderTools.Proofs.TidyAddresses
import ShaderTools.Proofs.StagingLeftovers
import ShaderTools.Proofs.GivenOptions
import ShaderTools.Proofs.WholeDownloads
import ShaderTools.Proofs.ColorSequences
import ShaderTools.Proofs.TerminalRuns
import ShaderTools.Proofs.PlainTexts
import ShaderTools.Proofs.PlainFailures
import ShaderTools.Proofs.PlainStreams
import ShaderTools.Proofs.ArchiveAddresses
import ShaderTools.Proofs.LineEndings
import ShaderTools.Proofs.QuotedTexts
import ShaderTools.Proofs.MalformedReports
import ShaderTools.Proofs.ObjectLiterals
import ShaderTools.Proofs.SnippetLiterals
import ShaderTools.Proofs.SpacedWords
