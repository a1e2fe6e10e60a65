import CacheGate.Settings.Basic
import CacheGate.Store.Memory

/-!
# What settings set up

Checked settings decide which store a node starts with, and the service in
front of it. Searches have no handler unless one is plugged in.
-/

namespace CacheGate

/-- The definition of a cache. -/
def CacheSettings.definition (cache : CacheSettings) : CacheDefinition :=
  ⟨cache.name, cache.lifespan, cache.maxIdle, cache.storage⟩

namespace Settings

/-- How the node sees its cluster. -/
def cluster (settings : Settings) : ClusterView :=
  ⟨settings.nodeName, settings.address.text, settings.members⟩

/-- The store of the node, with an empty cache for each that is configured. -/
def memory (settings : Settings) : Memory :=
  .create settings.cluster (settings.caches.map CacheSettings.definition)

/-- The service of the node. -/
def service (settings : Settings) : Service :=
  ⟨.ofPrincipal settings.elevatedPrincipal, settings.poolSize, settings.extendedHeaders,
    .unsupported⟩

end Settings

end CacheGate
