import Orderly.Publication.Delivery
import Orderly.Fulfilment.Overselling
import Orderly.Fulfilment.NetEffect
import Orderly.Fulfilment.Refunds
import Orderly.Fulfilment.Reruns
import Orderly.Fulfilment.OrderTransitions
import Orderly.Fulfilment.Finality
import Orderly.Fulfilment.Cancellation
import Orderly.Fulfilment.Stranding
import Orderly.Fulfilment.ManualCompensation
import Orderly.Fulfilment.LostReplies
import Orderly.Publication.DoubleProcessing
import Orderly.Publication.PublishedFinal
import Orderly.Domain.Intake
import Orderly.Domain.OrderService
import Orderly.Infrastructure.Backend
import Orderly.Api.OrderSchema
import Orderly.Api.Orders
import Orderly.Ordering.Creation
import Orderly.Ordering.AllOrNothing
import Orderly.Ordering.Requests
import Orderly.Ordering.OneOrder
import Orderly.Ordering.Replays
import Orderly.Process.Coupling
import Orderly.Process.Apart
import Orderly.Fulfilment.StepLog
import Orderly.Fulfilment.WriteAhead
import Orderly.Ordering.Isolation
import Orderly.Infrastructure.SagaWorker
import Orderly.Process.Numbering
import Orderly.Pipeline.Stages
import Orderly.Pipeline.Steps
import Orderly.Pipeline.Accounting
import Orderly.Pipeline.Announcements
import Orderly.Inventory.Locks
import Orderly.Inventory.Reservation
import Orderly.Inventory.Ledger
import Orderly.Inventory.Sufficiency
import Orderly.Infrastructure.PostgresDriver
import Orderly.Fulfilment.RoundTrip
import Orderly.Events.WebhookDispatcher
import Orderly.Publication.Notifications
import Orderly.Infrastructure.PostgresAdvisoryLock
import Orderly.Locking.Steps
import Orderly.Locking.Exclusion
import Orderly.Locking.Freeing
import Orderly.Domain.DecimalTexts
import Orderly.Domain.Amounts
import Orderly.Ordering.Admission
import Orderly.Infrastructure.OrderRepository
import Orderly.Ordering.Totals
import Orderly.Process.Waiting
import Orderly.Inventory.LockOrder
import Orderly.Locking.Unlocks
import Orderly.Publication.Single
import Orderly.Publication.Draining
import Orderly.Publication.CreationOrder
import Orderly.Publication.AuditRows
import Orderly.Domain.JsonValues
import Orderly.Domain.JsonObjects
import Orderly.Domain.JsonTexts
import Orderly.Domain.JsonRoundTrip
import Orderly.Events.Signature
import Orderly.Webhooks.Canonical
import Orderly.Webhooks.KeyOrder
import Orderly.Webhooks.Digests
import Orderly.Webhooks.Signatures
import Orderly.Events.Urls
import Orderly.Webhooks.Addresses
import Orderly.Webhooks.Hosts
import Orderly.Webhooks.Blocking
import Orderly.Domain.MoneyOrder
import Orderly.Infrastructure.MinorUnits
import Orderly.Process.Tally
import Orderly.Ordering.RateLimits
import Orderly.Api.AdminDlq
import Orderly.Pipeline.DeadLetters
import Orderly.Pipeline.Payments
import Orderly.Fulfilment.Completion
import Orderly.Fulfilment.AutomaticRefunds
import Orderly.Fulfilment.Abandoned
import Orderly.Pipeline.Attempts
import Orderly.Pipeline.Charges
import Orderly.Api.GetOrder
import Orderly.Pipeline.ReadingBack
import Orderly.Service.Accounts
