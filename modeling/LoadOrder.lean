import LoadOrder.Main
import LoadOrder.Proofs.Assembly.BareRecords
import LoadOrder.Proofs.Condition.OnePass
import LoadOrder.Proofs.Condition.Writing
import LoadOrder.Proofs.Content.Catalogs
import LoadOrder.Proofs.Content.Resolution
import LoadOrder.Proofs.Document.Records
import LoadOrder.Proofs.Entry.Edits
import LoadOrder.Proofs.Entry.TagSpellings
import LoadOrder.Proofs.Install.Batches
import LoadOrder.Proofs.Order.Comparison
import LoadOrder.Proofs.Order.ContentRule
import LoadOrder.Proofs.Order.InputOrder
import LoadOrder.Proofs.Order.MutualPairs
import LoadOrder.Proofs.Order.RankedSort
import LoadOrder.Proofs.Order.Readiness
import LoadOrder.Proofs.Order.Urgency
import LoadOrder.Proofs.Plugin.Policies
import LoadOrder.Proofs.Plugin.Repetition
import LoadOrder.Proofs.Run.Concurrency
import LoadOrder.Proofs.Run.Outcomes
import LoadOrder.Proofs.Run.Trimming
import LoadOrder.Proofs.Storage.Directories
import LoadOrder.Storage.FileTree
