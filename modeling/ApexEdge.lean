import ApexEdge.Contracts.Pos
import ApexEdge.Domain.Cart
import ApexEdge.Domain.Pricing
import ApexEdge.Domain.Promotions
import ApexEdge.Domain.Returns
import ApexEdge.Domain.Shifts
import ApexEdge.Fiscal.Export
import ApexEdge.Fiscal.Transaction
import ApexEdge.Hardware.Document
import ApexEdge.Hardware.Encode
import ApexEdge.Hardware.VirtualPrinter
import ApexEdge.Hub.ApprovalDesk
import ApexEdge.Hub.AuthDesk
import ApexEdge.Hub.CatalogSearch
import ApexEdge.Hub.CommandStore
import ApexEdge.Hub.EventStream
import ApexEdge.Hub.FiscalRoom
import ApexEdge.Hub.FiscalTransactions
import ApexEdge.Hub.FrontDoor
import ApexEdge.Hub.Handoff
import ApexEdge.Hub.PosHandler
import ApexEdge.Hub.PresenceRoom
import ApexEdge.Hub.RateLimit
import ApexEdge.Hub.RemotePayments
import ApexEdge.Hub.ReturnCounter
import ApexEdge.Hub.ShiftDesk
import ApexEdge.Hub.Step
import ApexEdge.Hub.StockDesk
import ApexEdge.Hub.StockRoom
import ApexEdge.Hub.StockStream
import ApexEdge.Hub.StripeHub
import ApexEdge.Hub.System
import ApexEdge.Hub.TakePayment
import ApexEdge.Hub.Till
import ApexEdge.Library.Checked
import ApexEdge.Library.Deferred
import ApexEdge.Library.Delimited
import ApexEdge.Library.Framing
import ApexEdge.Library.Handout
import ApexEdge.Library.HashChain
import ApexEdge.Library.Interference
import ApexEdge.Library.Interleaving
import ApexEdge.Library.Memory
import ApexEdge.Library.Overwrites
import ApexEdge.Library.Paging
import ApexEdge.Library.PdfFile
import ApexEdge.Library.Program
import ApexEdge.Library.Replacing
import ApexEdge.Library.Replica
import ApexEdge.Library.Retry
import ApexEdge.Library.Sequence
import ApexEdge.Library.SignedWord
import ApexEdge.Library.SlidingWindow
import ApexEdge.Library.SqlNumber
import ApexEdge.Library.Substitution
import ApexEdge.Library.Table
import ApexEdge.Library.Text
import ApexEdge.Library.Totals
import ApexEdge.Library.Transaction
import ApexEdge.Library.Wrapping
import ApexEdge.Outbox.Dispatcher
import ApexEdge.Outbox.Headquarters
import ApexEdge.Payment.Provider
import ApexEdge.Payment.StripeTerminal
import ApexEdge.Pos.CartCommands
import ApexEdge.Pos.CartEdits
import ApexEdge.Pos.CheckedPricing
import ApexEdge.Pos.LineCommands
import ApexEdge.Pos.Pricing
import ApexEdge.Pos.StoreStream
import ApexEdge.Printing.Pdf
import ApexEdge.Printing.Render
import ApexEdge.Proofs.ApprovalConduct
import ApexEdge.Proofs.ApprovalDecisions
import ApexEdge.Proofs.Attempts
import ApexEdge.Proofs.AuditChain
import ApexEdge.Proofs.AuthConduct
import ApexEdge.Proofs.BlindReturns
import ApexEdge.Proofs.CartDiscounts
import ApexEdge.Proofs.CartMoney
import ApexEdge.Proofs.CartPricing
import ApexEdge.Proofs.CartStates
import ApexEdge.Proofs.CatalogPaging
import ApexEdge.Proofs.CheapestUnits
import ApexEdge.Proofs.Checkout
import ApexEdge.Proofs.ClosedShifts
import ApexEdge.Proofs.ClosingExport
import ApexEdge.Proofs.Conformance
import ApexEdge.Proofs.Contract
import ApexEdge.Proofs.CouponRecords
import ApexEdge.Proofs.DecoderTotality
import ApexEdge.Proofs.DeliveryBudget
import ApexEdge.Proofs.DeliveryTries
import ApexEdge.Proofs.Destinations
import ApexEdge.Proofs.DiscountShortcut
import ApexEdge.Proofs.DrawerCash
import ApexEdge.Proofs.DurableSales
import ApexEdge.Proofs.Entitlements
import ApexEdge.Proofs.ExactPromos
import ApexEdge.Proofs.FailedEdits
import ApexEdge.Proofs.FailedRefunds
import ApexEdge.Proofs.FinalReturns
import ApexEdge.Proofs.FinishedCarts
import ApexEdge.Proofs.FiscalConduct
import ApexEdge.Proofs.FiscalCsv
import ApexEdge.Proofs.FiscalEvidence
import ApexEdge.Proofs.FiscalQueueing
import ApexEdge.Proofs.FrontDoor
import ApexEdge.Proofs.FullRefunds
import ApexEdge.Proofs.HqIntake
import ApexEdge.Proofs.Ledger
import ApexEdge.Proofs.LostUpdates
import ApexEdge.Proofs.OneOrder
import ApexEdge.Proofs.Oversell
import ApexEdge.Proofs.PaidCarts
import ApexEdge.Proofs.PairingCodes
import ApexEdge.Proofs.Presence
import ApexEdge.Proofs.PriceOverrides
import ApexEdge.Proofs.PricedReturns
import ApexEdge.Proofs.PricingArithmetic
import ApexEdge.Proofs.PromoAllocation
import ApexEdge.Proofs.PromoArithmetic
import ApexEdge.Proofs.PromoOrder
import ApexEdge.Proofs.PromoRequests
import ApexEdge.Proofs.PromoShares
import ApexEdge.Proofs.ProviderKeys
import ApexEdge.Proofs.RateLimiting
import ApexEdge.Proofs.ReceiptCommands
import ApexEdge.Proofs.ReceiptDetection
import ApexEdge.Proofs.ReceiptFrames
import ApexEdge.Proofs.ReceiptLayout
import ApexEdge.Proofs.ReceiptLossless
import ApexEdge.Proofs.ReceiptPage
import ApexEdge.Proofs.ReceiptPdf
import ApexEdge.Proofs.ReceiptRoundTrip
import ApexEdge.Proofs.ReceiptScripts
import ApexEdge.Proofs.ReceiptWords
import ApexEdge.Proofs.ReceiptedReturns
import ApexEdge.Proofs.RefundBooks
import ApexEdge.Proofs.RefundBounds
import ApexEdge.Proofs.RefundEvidence
import ApexEdge.Proofs.Refunding
import ApexEdge.Proofs.Repricing
import ApexEdge.Proofs.Reservations
import ApexEdge.Proofs.Retries
import ApexEdge.Proofs.ReturnSnapshots
import ApexEdge.Proofs.Reversals
import ApexEdge.Proofs.SessionRotation
import ApexEdge.Proofs.ShiftConduct
import ApexEdge.Proofs.SnapshotStock
import ApexEdge.Proofs.StepEffects
import ApexEdge.Proofs.StockBooks
import ApexEdge.Proofs.StockBroadcasts
import ApexEdge.Proofs.StoredValue
import ApexEdge.Proofs.StrandedMoney
import ApexEdge.Proofs.StreamDelivery
import ApexEdge.Proofs.StreamEndpoints
import ApexEdge.Proofs.StripeApproval
import ApexEdge.Proofs.StripeErrors
import ApexEdge.Proofs.StripePosts
import ApexEdge.Proofs.Submissions
import ApexEdge.Proofs.SummaryStatus
import ApexEdge.Proofs.SupervisedUses
import ApexEdge.Proofs.SuspendedSales
import ApexEdge.Proofs.SyncAtomicity
import ApexEdge.Proofs.SyncOutcomes
import ApexEdge.Proofs.SyncedRows
import ApexEdge.Proofs.TaxBreakdown
import ApexEdge.Proofs.TemplateSubstitution
import ApexEdge.Proofs.TerminalStates
import ApexEdge.Proofs.TerminalViews
import ApexEdge.Proofs.TillBooks
import ApexEdge.Proofs.WholeOrders
import ApexEdge.Storage.Approvals
import ApexEdge.Storage.AuditLog
import ApexEdge.Storage.Auth
import ApexEdge.Storage.FiscalQueue
import ApexEdge.Storage.InventoryLedger
import ApexEdge.Storage.Orders
import ApexEdge.Storage.OutboxDestinations
import ApexEdge.Storage.PaymentIntents
import ApexEdge.Storage.ReturnLines
import ApexEdge.Storage.Returns
import ApexEdge.Storage.Shifts
import ApexEdge.Storage.StoredValue
import ApexEdge.Sync.SyncRun
import ApexEdge.Sync.SyncTables
