import TwinCatalogue.Activity
import TwinCatalogue.Http.Answer
import TwinCatalogue.Http.Calls

/-!
The remote systems behind a network. A network takes messages and brings answers or fails; over
one, the calls of the engine become exchanges.
-/

namespace TwinCatalogue.Http

structure Network (ν : Type) where
  send : Message → ν → Except ExchangeError Answer × ν

variable {ν : Type}

def sendingError (url : Url) (e : ExchangeError) : ExchangeError :=
  { e with causes := ("error sending request for url (" ++ url.render ++ ")") :: e.causes }

def Network.exchange (n : Network ν) (d : Draft) (s : ν) : Except ExchangeError Answer × ν :=
  match d.message with
  | .error fault => (.error ⟨.transfer, fault.causes⟩, s)
  | .ok message =>
    match n.send message s with
    | (.error e, s') => (.error (sendingError message.url e), s')
    | (.ok answer, s') => (.ok answer, s')

def Network.fetch (n : Network ν) (d : Draft) (s : ν) : Reply × ν :=
  match n.exchange d s with
  | (.error e, s') => (.error (e.storeError d.address), s')
  | (.ok answer, s') => (answer.document d.address, s')

def mintFailure (url : String) : String := "request to " ++ url ++ " failed"

def Network.mint (n : Network ν) (e : TokenEndpoint) (s : ν) : Except TokenError Token × ν :=
  match n.exchange (minting e) s with
  | (.error x, s') => (.error ⟨mintFailure e.url ++ ": " ++ joined x.causes⟩, s')
  | (.ok answer, s') => (answer.token e.url, s')

def Network.world (n : Network ν) (c : Config) (draw : ν → UInt64 × ν) : World ν where
  answer call s := n.fetch (draft c call) s
  mint s := n.mint c.token s
  draw := draw

def noRoute : ExchangeError :=
  ⟨.connecting,
    ["client error (Connect)", "tcp connect error", "Network is unreachable (os error 101)"]⟩

def noSuchName : ExchangeError :=
  ⟨.connecting, ["client error (Connect)", "dns error",
    "failed to lookup address information: Name or service not known"]⟩

/-- A network that is down. Names that it has to look up itself are not found, and everything
else has no route. Its state is the list of messages that arrived, to which none is added. -/
def Network.down (looksUp : Host → Bool) : Network (List Message) where
  send message arrived := (.error (if looksUp message.url.host then noSuchName else noRoute), arrived)

end TwinCatalogue.Http
