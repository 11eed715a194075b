import TwinCatalogue.Failure
import TwinCatalogue.Text.Blank

/-!
Exchanges that fail, and what they mean for a call. A failure while connecting counts as an
unknown host if one of its causes speaks of looking up a name.
-/

namespace TwinCatalogue.Http

inductive Stage where
  | timedOut
  | connecting
  | decoding
  | transfer
  deriving DecidableEq, Repr

/-- A failed exchange: how far it came and why. Each wording is the cause of the one before. -/
structure ExchangeError where
  stage : Stage
  causes : List String
  deriving DecidableEq, Repr

def joined (causes : List String) : String := String.intercalate ": " causes

def lookupPhrases : List String :=
  ["dns error", "failed to lookup address", "name or service not known", "no such host"]

def mentionsLookup (s : String) : Bool :=
  let small := (Text.lowerAscii s).toList
  lookupPhrases.any fun phrase => Text.occursIn phrase.toList small

def ExchangeError.storeError (url : String) (e : ExchangeError) : StoreError :=
  let reason := joined e.causes
  match e.stage with
  | .timedOut => .timeout url
  | .connecting => if mentionsLookup reason then .hostResolution url reason else .transport url reason
  | .decoding => .decode url reason
  | .transfer => .transport url reason

end TwinCatalogue.Http
