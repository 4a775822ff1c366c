import Courier.Json.Shape

/-!
# Service endpoints

Where a service listens, as the service catalog reports it: an entry gives a node address, an
optional service address that overrides it, and a port.
-/

namespace Courier

open Json

/-- A service's address and port. -/
structure Endpoint where
  name : String
  address : String
  port : Nat

namespace Endpoint

/-- The base URL of an endpoint. -/
def baseUrl (e : Endpoint) : String := "http://" ++ e.address ++ ":" ++ toString e.port

/-- The URL of a path on an endpoint; a path without a leading slash gets one. -/
def urlFor (e : Endpoint) (path : String) : String :=
  if path.startsWith "/" then e.baseUrl ++ path else e.baseUrl ++ "/" ++ path

end Endpoint

/-- One entry of the service catalog. -/
structure CatalogEntry where
  address : String := ""
  serviceAddress : String := ""
  servicePort : Nat

namespace CatalogEntry

/-- The JSON shape of a catalog entry. -/
def shape : Shape :=
  .record "CatalogEntry"
    [("Address", .text, true), ("ServiceAddress", .text, true), ("ServicePort", .word16, false)]

/-- An entry from a value in the normal form of `shape`. -/
def ofValue (v : Value) : CatalogEntry where
  address := ((v.field "Address").str?).getD ""
  serviceAddress := ((v.field "ServiceAddress").str?).getD ""
  servicePort := match v.field "ServicePort" with
    | .num (.int i) => i.toNat
    | _ => 0

/-- The endpoint an entry describes; the service address wins when it is not empty. -/
def toEndpoint (c : CatalogEntry) (name : String) : Endpoint :=
  { name, address := if c.serviceAddress.isEmpty then c.address else c.serviceAddress,
    port := c.servicePort }

end CatalogEntry

end Courier
