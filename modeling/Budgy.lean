import Budgy.Interface.Answers
import Budgy.Interface.Assumptions
import Budgy.Interface.Calendar
import Budgy.Interface.CaseMapping
import Budgy.Interface.Clusters
import Budgy.Interface.Contracts
import Budgy.Interface.Decimals
import Budgy.Interface.Excision
import Budgy.Interface.Execution
import Budgy.Interface.Folds
import Budgy.Interface.Forms
import Budgy.Interface.Greedy
import Budgy.Interface.Grouping
import Budgy.Interface.Interleaving
import Budgy.Interface.Latest
import Budgy.Interface.Ledger
import Budgy.Interface.Loops
import Budgy.Interface.Pages
import Budgy.Interface.Program
import Budgy.Interface.Ranks
import Budgy.Interface.Refinement
import Budgy.Interface.Saturation
import Budgy.Interface.Separators
import Budgy.Interface.Table
import Budgy.Interface.Text
import Budgy.Interface.Traversal
import Budgy.Interface.TwoRuns
import Budgy.Interface.Unicode
import Budgy.Interface.Views
import Budgy.Interface.WordSearch
import Budgy.Interface.Words
import Budgy.Model.Agregation
import Budgy.Model.Basics
import Budgy.Model.ClientEnableBanking
import Budgy.Model.Crypto
import Budgy.Model.Cycle
import Budgy.Model.Detection
import Budgy.Model.Domain
import Budgy.Model.Effacement
import Budgy.Model.EnableBanking
import Budgy.Model.Entrees
import Budgy.Model.Errors
import Budgy.Model.Handlers.Banques
import Budgy.Model.Handlers.Classement
import Budgy.Model.Handlers.Lectures
import Budgy.Model.Libelle
import Budgy.Model.Machine
import Budgy.Model.Pagination
import Budgy.Model.Repository.Classement
import Budgy.Model.Repository.Comptes
import Budgy.Model.Repository.Consents
import Budgy.Model.Repository.Transactions
import Budgy.Model.Sql.Classement
import Budgy.Model.Sql.Comptes
import Budgy.Model.Sql.Consents
import Budgy.Model.Sql.Transactions
import Budgy.Model.Store
import Budgy.Model.Synchro
import Budgy.Model.Systeme
import Budgy.Model.Transport
import Budgy.Analysis.AbandonedRenewal
import Budgy.Analysis.AccountIsolation
import Budgy.Analysis.AccountPages
import Budgy.Analysis.Aggregates
import Budgy.Analysis.AmountGrammar
import Budgy.Analysis.BalanceAnnouncement
import Budgy.Analysis.BankTokens
import Budgy.Analysis.BarePrefix
import Budgy.Analysis.BlockRefusal
import Budgy.Analysis.CallbackReplay
import Budgy.Analysis.Callbacks
import Budgy.Analysis.Categorisation
import Budgy.Analysis.Concurrency
import Budgy.Analysis.ConsentExpiry
import Budgy.Analysis.ConsentLife
import Budgy.Analysis.ConsentsPage
import Budgy.Analysis.ConsolidatedBalance
import Budgy.Analysis.ContinuationKey
import Budgy.Analysis.CycleTrace
import Budgy.Analysis.Cycles
import Budgy.Analysis.DailyQuota
import Budgy.Analysis.DecimalAmounts
import Budgy.Analysis.DerivedRules
import Budgy.Analysis.Doors
import Budgy.Analysis.EncryptedStorage
import Budgy.Analysis.Erasure
import Budgy.Analysis.ErasureInFlight
import Budgy.Analysis.EstablishmentId
import Budgy.Analysis.Evolution
import Budgy.Analysis.ExclusiveAccounts
import Budgy.Analysis.ExtractionTwice
import Budgy.Analysis.FingerprintCatchUp
import Budgy.Analysis.Footprint
import Budgy.Analysis.Forecast
import Budgy.Analysis.Frame
import Budgy.Analysis.HalfwayCallback
import Budgy.Analysis.IbanMasking
import Budgy.Analysis.Integrity
import Budgy.Analysis.InternalErrors
import Budgy.Analysis.InternalTransfers
import Budgy.Analysis.InterruptedRecalculation
import Budgy.Analysis.Isolation
import Budgy.Analysis.LabelWords
import Budgy.Analysis.Ledger
import Budgy.Analysis.LedgerRuns
import Budgy.Analysis.ManualChoice
import Budgy.Analysis.Medians
import Budgy.Analysis.MerchantKey
import Budgy.Analysis.MerchantShape
import Budgy.Analysis.MonthFormats
import Budgy.Analysis.MonthlyTotals
import Budgy.Analysis.OperationIdentity
import Budgy.Analysis.Overflow
import Budgy.Analysis.OwnerPages
import Budgy.Analysis.Ownership
import Budgy.Analysis.PageRequests
import Budgy.Analysis.PaginationEnd
import Budgy.Analysis.Provenance
import Budgy.Analysis.ReadableAnswers
import Budgy.Analysis.Reconciliation
import Budgy.Analysis.ReconciliationIdempotence
import Budgy.Analysis.ReconciliationLimits
import Budgy.Analysis.RecurrenceCompleteness
import Budgy.Analysis.RecurrenceDetection
import Budgy.Analysis.RecurrenceFreshness
import Budgy.Analysis.RelayDeliveries
import Budgy.Analysis.RemainingBudget
import Budgy.Analysis.Replies
import Budgy.Analysis.RepositoryOutcomes
import Budgy.Analysis.Requests
import Budgy.Analysis.Reservations
import Budgy.Analysis.RuleChoice
import Budgy.Analysis.Scenarios
import Budgy.Analysis.SessionReference
import Budgy.Analysis.Settings
import Budgy.Analysis.SettingsRuns
import Budgy.Analysis.SingleCounting
import Budgy.Analysis.SlotRace
import Budgy.Analysis.StaleFailure
import Budgy.Analysis.Statements
import Budgy.Analysis.StoredAmounts
import Budgy.Analysis.StoredCiphertexts
import Budgy.Analysis.SyncWindow
import Budgy.Analysis.TenantReads
import Budgy.Analysis.Ticks
import Budgy.Analysis.TransactionLife
import Budgy.Analysis.TransferDetection
import Budgy.Analysis.TransferRecalculation
import Budgy.Analysis.TransfersAndRules
import Budgy.Analysis.WorkerCycle
