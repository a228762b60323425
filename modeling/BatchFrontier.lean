import BatchFrontier.Main
import BatchFrontier.Proofs.AddressForms
import BatchFrontier.Proofs.ChainIdSource
import BatchFrontier.Proofs.LedgerWays
import BatchFrontier.Proofs.ManagerRecords
import BatchFrontier.Proofs.ProviderCourse
import BatchFrontier.Proofs.RevertReasons
import BatchFrontier.Proofs.RunDocuments
import BatchFrontier.Proofs.RunRequests
import BatchFrontier.Proofs.HexSpelling
import BatchFrontier.Proofs.StableReasons
import BatchFrontier.Proofs.ProofDigits
import BatchFrontier.Proofs.FixedStatements
import BatchFrontier.Proofs.SettingChecks
