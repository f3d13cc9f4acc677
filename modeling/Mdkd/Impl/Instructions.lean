import Mdkd.Impl.Ldk

/-!
# Payment instructions

The types of `bitcoin-payment-instructions`, with what this repository reads
of them. An `Amount` is its number of millisatoshis; invoices and offers are
their texts, since the code only passes those on.
-/

namespace Mdkd

/-- `PaymentMethod`. -/
inductive PaymentMethod where
  | lightningBolt11 (invoice : String)
  | lightningBolt12 (offer : String)
  | onChain (address : String)
  deriving DecidableEq

/-- `PossiblyResolvedPaymentMethod`. -/
inductive PossiblyResolvedPaymentMethod where
  | lnurlPay (minValue maxValue : UInt64)
  | resolved (method : PaymentMethod)
  deriving DecidableEq

/-- `FixedAmountPaymentInstructions`. -/
structure FixedAmount where
  lnPaymentAmount : Option UInt64
  methods : List PaymentMethod
  deriving DecidableEq

/-- `ConfigurableAmountPaymentInstructions`. -/
structure ConfigurableAmount where
  methods : List PossiblyResolvedPaymentMethod
  deriving DecidableEq

inductive PaymentInstructions where
  | fixedAmount (fixed : FixedAmount)
  | configurableAmount (configurable : ConfigurableAmount)
  deriving DecidableEq

/-- `ParseError`: the variant the code looks into, and the others as displayed. -/
inductive ParseError where
  | hrnResolutionError (msg : String)
  | other (debug : String)
  deriving DecidableEq

def PaymentMethod.bolt11? : PaymentMethod → Option String
  | .lightningBolt11 invoice => some invoice
  | _ => none

def PaymentMethod.bolt12? : PaymentMethod → Option String
  | .lightningBolt12 offer => some offer
  | _ => none

end Mdkd
