import BlockWire.Client.Basic

/-!
# Scoped sessions

A scoped session connects a new client, runs a body with it, and disconnects
it again however the body ends: with a value, with a failure, or cut short.
If connecting does not succeed the body is not run.
-/

namespace BlockWire.Client

variable {ν α : Type} [Network ν]

/-- What a scoped session runs. -/
abbrev Body (ν α : Type) := Client → ν → Ending α × Client × ν

/-- Run a body with a client that is connected to an endpoint for as long as
the body runs. -/
def withSession (endpoint : Endpoint) (body : Body ν α) (network : ν) :
    Ending α × ν :=
  match (ofEndpoint endpoint).connect network with
  | (.aborted, _, network) => (.aborted, network)
  | (.returned (.error failure), _, network) =>
      (.returned (.error failure), network)
  | (.returned (.ok ()), client, network) =>
      let (ending, client, network) := body client network
      let (_, network) := client.disconnect network
      (ending, network)

end BlockWire.Client
