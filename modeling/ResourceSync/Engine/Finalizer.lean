import ResourceSync.Engine.World

/-! Finalizers: put on an object while its entity may exist, and taken off once it is gone. -/
namespace ResourceSync
variable {k : Kind}

/-- Puts a finalizer at the end of the list that `r` was read with. -/
def ensureFinalizer (r : Resource k) (finalizer : String) : Run k Unit :=
  if r.hasFinalizer finalizer then return ()
  else World.patchFinalizers r (r.metadata.finalizerList ++ [finalizer])

/-- Takes a finalizer out of the list that `r` was read with. -/
def removeFinalizer (r : Resource k) (finalizer : String) : Run k Unit :=
  if r.hasFinalizer finalizer then
    World.patchFinalizers r (r.metadata.finalizerList.filter fun f => f ≠ finalizer)
  else return ()

end ResourceSync
