/-!
The part of `schema.ResourceData` the handlers use. A handler sees the attribute values of the
prior state and of the plan: `Get` reads the plan, `GetChange` reads both and `HasChange` tells
them apart. `SetId` and `Set` write what Terraform stores once the handler returns. An import
hands `Read` the id alone.
-/

/-- The resource id with the prior and the planned attribute values of a resource. -/
structure ResourceData (α : Type) where
  id : String
  old : α
  new : α
  deriving DecidableEq, Repr

namespace ResourceData

variable {α : Type}

/-- The data a handler gets for a resource whose prior state and plan agree. -/
def ofAttrs (id : String) (attrs : α) : ResourceData α :=
  ⟨id, attrs, attrs⟩

/--
`schema.ImportStatePassthroughContext`: the data of an imported resource holds the id given to
the import and the zero values of the attributes, in the prior state and in the plan alike.
-/
def importStatePassthroughContext (zero : α) (id : String) : ResourceData α :=
  ofAttrs id zero

def setId (d : ResourceData α) (id : String) : ResourceData α :=
  { d with id := id }

@[simp] theorem setId_new (d : ResourceData α) (id : String) : (d.setId id).new = d.new := rfl

@[simp] theorem setId_old (d : ResourceData α) (id : String) : (d.setId id).old = d.old := rfl

@[simp] theorem setId_id (d : ResourceData α) (id : String) : (d.setId id).id = id := rfl

end ResourceData
