import KotlinBuilders.Batch.Files
import KotlinBuilders.CommandLine.Session
import KotlinBuilders.Host.Loading
import KotlinBuilders.Host.Serialization
import KotlinBuilders.Main
import KotlinBuilders.Proofs.AliasMarkers
import KotlinBuilders.Proofs.ArityMismatches
import KotlinBuilders.Proofs.BracketCuts
import KotlinBuilders.Proofs.BranchReachability
import KotlinBuilders.Proofs.BuildSelection
import KotlinBuilders.Proofs.BuilderUse
import KotlinBuilders.Proofs.ClashResolution
import KotlinBuilders.Proofs.DamagedListings
import KotlinBuilders.Proofs.DeclarationIndependence
import KotlinBuilders.Proofs.DeferredSlots
import KotlinBuilders.Proofs.DiskWrites
import KotlinBuilders.Proofs.DistinctPaths
import KotlinBuilders.Proofs.DumpEdits
import KotlinBuilders.Proofs.DumpRoundTrip
import KotlinBuilders.Proofs.DyckWords
import KotlinBuilders.Proofs.FirstDocument
import KotlinBuilders.Proofs.ImportCoverage
import KotlinBuilders.Proofs.ImportPaths
import KotlinBuilders.Proofs.ImportShadowing
import KotlinBuilders.Proofs.IndentedBlocks
import KotlinBuilders.Proofs.IndexTuples
import KotlinBuilders.Proofs.ListingContent
import KotlinBuilders.Proofs.ListingFields
import KotlinBuilders.Proofs.MisplacedValues
import KotlinBuilders.Proofs.ModelFiles
import KotlinBuilders.Proofs.ModuleLayout
import KotlinBuilders.Proofs.NestedKinds
import KotlinBuilders.Proofs.ParameterSources
import KotlinBuilders.Proofs.PathContainment
import KotlinBuilders.Proofs.PathPlaces
import KotlinBuilders.Proofs.Pieces
import KotlinBuilders.Proofs.PrintedListing
import KotlinBuilders.Proofs.RunAccounts
import KotlinBuilders.Proofs.Selections
import KotlinBuilders.Proofs.SetterOverloads
import KotlinBuilders.Proofs.SlotConsistency
import KotlinBuilders.Proofs.SlotPlaces
import KotlinBuilders.Proofs.SplitDepth
import KotlinBuilders.Proofs.SummaryAgreement
import KotlinBuilders.Proofs.TypeTrees
import KotlinBuilders.Proofs.WrittenNames
