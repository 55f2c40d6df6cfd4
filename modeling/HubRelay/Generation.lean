import HubRelay.Discovery.Run
import HubRelay.Discovery.Snapshot
import HubRelay.Document.Render

/-!
# Generation

The whole way from an accepted snapshot to a document: the hubs among its declarations are
discovered and rendered. Candidates that fail are left out of the document and reported beside it.
-/

set_option autoImplicit false

namespace HubRelay

namespace Model

/-- The hubs among the declarations of a snapshot. A discovery that nobody cancels has a result. -/
def discover (m : Model) (settings : Settings) : Except ExtractionError Discovery :=
  (m.host.discover settings none m.candidates).result

/-- The hubs of a snapshot and their document. -/
def generate (m : Model) (settings : Settings) :
    Except ExtractionError (Discovery × Document) := do
  let discovery ← m.discover settings
  return (discovery, Document.ofHubs discovery.hubs settings)

end Model

end HubRelay
