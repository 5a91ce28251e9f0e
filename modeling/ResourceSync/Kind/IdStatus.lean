import ResourceSync.Json.Record

/-! The status of the kinds that remember nothing but the identifier of their entity. -/
namespace ResourceSync

/-- A status that holds nothing but the identifier of the entity. -/
structure IdStatus where
  id : Option String
deriving DecidableEq, Repr

/-- The layout of such a status, under the name of the kind's own. -/
def IdStatus.layout (name : String) : Layout IdStatus := .record name
  (.cons (.optional "id" .text) .nil) (fun s => (s.id, ())) (fun (id, ()) => ⟨id⟩)

end ResourceSync
