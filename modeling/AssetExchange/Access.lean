import AssetExchange.Enumerated

/-!
# Access modes

What a batch call may do with the entities it names. Each group of calls admits
only the modes that make sense for it: an `AccessAmong` is a mode together with
the evidence that the group admits it.
-/

namespace AssetExchange

inductive Access
  | read
  | write
  | createRelated
  | required
  | managerDriven
deriving DecidableEq

def Access.name : Access → String
  | .read => "read"
  | .write => "write"
  | .createRelated => "createRelated"
  | .required => "required"
  | .managerDriven => "managerDriven"

instance : Enumerated Access where
  values := [.read, .write, .createRelated, .required, .managerDriven]
  name := Access.name
  mem_values := by intro value; cases value <;> decide
  name_injective := by intro first second; cases first <;> cases second <;> decide

/-- An access mode that is one of those a group of calls admits. -/
structure AccessAmong (admitted : List Access) where
  mode : Access
  isAdmitted : mode ∈ admitted
deriving DecidableEq

namespace AccessAmong

variable {admitted : List Access}

def values (admitted : List Access) : List (AccessAmong admitted) :=
  admitted.attach.map fun mode => ⟨mode.1, mode.2⟩

theorem ext_mode {first second : AccessAmong admitted}
    (same : first.mode = second.mode) : first = second := by
  cases first
  cases second
  cases same
  rfl

theorem mem_values (access : AccessAmong admitted) :
    access ∈ values admitted :=
  List.mem_map.2 ⟨⟨access.mode, access.isAdmitted⟩, List.mem_attach _ _, rfl⟩

end AccessAmong

instance (admitted : List Access) : Enumerated (AccessAmong admitted) where
  values := AccessAmong.values admitted
  name := fun access => access.mode.name
  mem_values := AccessAmong.mem_values
  name_injective := fun first second same =>
    AccessAmong.ext_mode (Enumerated.name_injective first.mode second.mode same)

abbrev ResolveAccess := AccessAmong [.read, .write]

abbrev PublishingAccess := AccessAmong [.write, .createRelated]

abbrev PolicyAccess :=
  AccessAmong [.read, .write, .createRelated, .required, .managerDriven]

abbrev RelationsAccess := AccessAmong [.read, .write, .createRelated]

abbrev DefaultEntityAccess := AccessAmong [.read, .write, .createRelated]

abbrev EntityTraitsAccess := AccessAmong [.read, .write]

end AssetExchange
