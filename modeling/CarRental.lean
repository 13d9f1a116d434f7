import CarRental.Payments.CaptureAmount
import CarRental.Payments.ConfirmPaths
import CarRental.Payments.IssuedOrders
import CarRental.Payouts.FourEyes
import CarRental.Payouts.AvailableBalance
import CarRental.Bookings.ExtensionPayments
import CarRental.Referrals.ReferralLaw
import CarRental.Coupons.CouponLaw
import CarRental.Bookings.CarRelease
import CarRental.Fleet.LifecycleLaw
import CarRental.Fulfillment.NestedLocks
import CarRental.Marketplace.PaymentBinding
import CarRental.Marketplace.ConfirmedOverlap
import CarRental.Marketplace.ConfirmationJournal
import CarRental.Marketplace.CancellationPreview
import CarRental.Payments.OrphanedRefundCycle
import CarRental.Bookings.StrandedPayments
import CarRental.Integrations.FallbackLaw
import CarRental.Integrations.Idempotency
import CarRental.Bookings.OutboxLaw
import CarRental.Corporate.Accounts
import CarRental.Vendors.DepositStatement
import CarRental.Vendors.DepositSatisfaction
import CarRental.Vendors.DepositPayments
import CarRental.DamageClaims.AdjudicationLaw
import CarRental.Fulfillment.StageAgreement
import CarRental.Fleet.ExclusiveAllocation
import CarRental.Operations.CascadeTermination
import CarRental.Notifications.DeliveryTruth
import CarRental.Integrations.RoutingLaw
import CarRental.Integrations.WebhookLaw
import CarRental.Notifications.PublicationLaw
import CarRental.Payments.PaidLaw
import CarRental.Bookings.CancellationTiers
import CarRental.Wallets.ExpiryLaw
import CarRental.Payments.AdminRefundLaw
import CarRental.Pricing.TenantRules
import CarRental.Pricing.DemandAwarePricing
import CarRental.Payouts.FinancialAdjustment
import CarRental.Loyalty.WalletRedemption
import CarRental.Marketplace.QuoteChecksum
import CarRental.Marketplace.AddonRefresh
import CarRental.Fleet.ClassSearch
import CarRental.Operations.ApprovalEngine
import CarRental.Cars.OperationsEligibility
import CarRental.Fleet.InventoryRebalancing
import CarRental.Finance.CommissionRules
import CarRental.Bookings.ExtensionAvailability
import CarRental.Security.Encryption
import CarRental.Wallets.CheckoutLimits
import CarRental.Locations.LocationMatrix
import CarRental.Invoices.InvoiceNumbers
import CarRental.Payments.WholeCalls
import CarRental.Bookings.BookingCalls
import CarRental.Deposits.History
import CarRental.Deposits.DeskRuns
import CarRental.Wallets.PaymentsView
import CarRental.Redis.CarLease
