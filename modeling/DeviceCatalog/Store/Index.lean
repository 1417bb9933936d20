import DeviceCatalog.AspectIndex
import DeviceCatalog.Store.Basic

/-!
Indexing all aspects of a store.
-/

namespace DeviceCatalog.Store

def rebuildAspect (store : Store) (root : Aspect) : Except RegistryError Store :=
  (·.2) <$> (AspectIndex.rebuild indexWriter root).run store

/-- Rebuilds the index of every aspect tree, in the order of the ids of their roots. -/
def rebuildIndex (store : Store) : Except RegistryError Store :=
  store.aspectRoots.foldlM rebuildAspect store

end DeviceCatalog.Store
