import Oxo.Foundation.Text

/-!
Contract: the header-name predicates shared by the edge and the workers
(`oxo-core/src/lib.rs`).

Owns: the client forwarding class, the reserved names and the CGI name normalization.

Does not own: where a caller strips, rejects or keeps a header.
-/

namespace Oxo.Core

open Oxo.Foundation

/-- The names of the forwarding class that are listed one by one. -/
def clientForwardingNames : List String :=
  ["forwarded", "x-real-ip", "client-ip", "true-client-ip", "cf-connecting-ip",
    "cf-pseudo-ipv4", "x-client-ip", "fastly-client-ip", "fly-client-ip",
    "x-cluster-client-ip", "x-original-forwarded-for", "x-original-for",
    "x-appengine-user-ip", "x-azure-clientip", "x-azure-socketip", "x-proxyuser-ip",
    "x-forwarded"]

/-- Client headers that can forge forwarding identity. The name must be ASCII
lowercase. -/
def isClientForwardingHeader (name : String) : Bool :=
  clientForwardingNames.contains name || startsWith name "x-forwarded-"

/-- The two classes of lowercase names whose values a client must not choose: the forwarding
class, and the reserved `x-oxo-` names, which each caller removes on its own. -/
def isReservedName (name : String) : Bool :=
  isClientForwardingHeader name || startsWith name "x-oxo-"

/-- The name to keep, or `none` for a name with an underscore, which could forge
a dashed header after CGI conversion. -/
def normalizeHeaderName (name : String) : Option String :=
  if name.toList.contains '_' then none else some (toAsciiLowercase name)

end Oxo.Core
