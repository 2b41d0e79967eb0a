import MeteredPayments.Price.Document

/-!
# Server pricing

The server takes its prices from a pricing file when one is named, and otherwise from the two
price options. A failure is a chain of sentences, the outermost context first and each cause
after it: a file that cannot be read, a file whose text is no pricing document, or a price
option that is no price (reported as an invalid price, caused by the price error).
-/

namespace MeteredPayments.Server

/-- Where the server's prices come from. -/
inductive PricingSource where
  /-- A pricing file, by the name it is shown under, with its text or why it could not be read. -/
  | file (name : String) (contents : Except String String)
  /-- The two price options. -/
  | options (perBlock perByte : String)

/-- The server's prices, or the chain of sentences that says why there are none. -/
def PricingSource.load : PricingSource → Except (List String) Pricing
  | .file name (.error cause) => .error [s!"Failed to read pricing file {name}", cause]
  | .file name (.ok text) =>
    (Pricing.ofDocument text).mapError fun error => [s!"Invalid pricing file {name}", error.render]
  | .options perBlock perByte =>
    (Pricing.parse perBlock perByte).mapError fun error =>
      [s!"invalid price: {error.message}", error.message]

/-- A chain of sentences on one line, each followed by its cause after a colon. -/
def chainText (chain : List String) : String := ": ".intercalate chain

end MeteredPayments.Server
