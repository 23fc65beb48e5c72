import TrafficShaper.Metrics.Address

/-! # The metrics endpoint

The filter's counters can be served for scraping on a socket address, `0.0.0.0:9090` unless
another is given. Serving needs a running asynchronous runtime; outside one, starting fails.
Inside one, the endpoint listens on the address, if the host lets a listener bind there.
Nothing is rendered before an endpoint is started.

* `MetricsError`, `MetricsError.message`;
* `bindFailure?`: why a listener cannot bind to an address;
* `Endpoint.start`: starting, inside a runtime or not.
-/

namespace TrafficShaper

/-- **Why the endpoint does not start.** -/
inductive MetricsError where
  | setupFailed (text : String)
  | noRuntime
  | alreadyInitialized
  deriving DecidableEq, Repr

/-- The wording of a failure to start. -/
def MetricsError.message : MetricsError → String
  | .setupFailed text => "Failed to setup metrics: " ++ text
  | .noRuntime => "Metrics endpoint needs a tokio runtime"
  | .alreadyInitialized => "Metrics already initialized"

/-- The default address of the endpoint. -/
def Endpoint.defaultAddress : SocketAddress := ⟨.v4 0 0 0 0, 9090⟩

/-- The groups of an IPv4-mapped IPv6 address, `::ffff:a.b.c.d`. -/
def isMapped (gs : List Nat) : Bool := gs.take 6 = [0, 0, 0, 0, 0, 0xFFFF]

/-- **Why a listener cannot bind** to an address, if it cannot. Any IPv4 address binds, also
through an IPv4-mapped IPv6 address, and so does the unspecified IPv6 address. The host has no
other IPv6 address, so: a multicast address is refused as an invalid argument, a link-local one
needs a scope, which must name an interface (only the loopback, index 1, exists), and any other
is not available. -/
def bindFailure? (addr : SocketAddress) : Option String :=
  match addr.host with
  | .v4 .. => none
  | .v6 gs scope =>
    let first := gs.headD 0
    if isMapped gs || gs.all (· = 0) then none
    else if 0xFF00 ≤ first then some "Invalid argument (os error 22)"
    else if first / 64 = 0xFE80 / 64 then
      if scope = 0 then some "Invalid argument (os error 22)"
      else if scope = 1 then some "Cannot assign requested address (os error 99)"
      else some "No such device (os error 19)"
    else some "Cannot assign requested address (os error 99)"

/-- **Starting the endpoint** on an address, inside a runtime or not. -/
def Endpoint.start (insideRuntime : Bool) (addr : SocketAddress) : Except MetricsError Unit :=
  if !insideRuntime then .error .noRuntime
  else match bindFailure? addr with
    | none => .ok ()
    | some text => .error (.setupFailed ("failed to create HTTP listener: " ++ text))

end TrafficShaper
