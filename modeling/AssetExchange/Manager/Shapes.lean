import AssetExchange.Batch.Policy
import AssetExchange.Manager.Batches

/-!
# Requests about one entity or many

The shapes in which hosts mostly use batch requests: the reports are collected and an
error policy turns them into one result. A request about one entity is the request
about many with a list of one.
-/

namespace AssetExchange
namespace Manager

variable {sigma tau pi alpha : Type} (plugin : Plugin sigma pi)

/-- Makes a batch request, collects its reports and finishes under a policy. An error
of the call itself comes before everything that was reported. -/
def collect (policy : ErrorPolicy) (subjects : List EntityReference)
    (access : Option Access) (batch : BatchRequest tau alpha) :
    Request tau (Outcome (List (policy.Element alpha))) :=
  fun state =>
    let (collector, reply) :=
      (batch state).drive (Collector.listener policy.stopsOnError)
        (Collector.ofSize subjects.length)
    reply.map fun
      | .error error => .error error
      | .ok () => policy.finish subjects access collector

/-- The result of a batch of one element. -/
def single : List alpha → Outcome alpha
  | [element] => .ok element
  | _ => .error Fault.notOneResult.toError

/-- The result of a request about one entity, from that about a list of one. -/
def one (many : Request tau (Outcome (List alpha))) : Request tau (Outcome alpha) :=
  fun state => (many state).map fun answer => answer.bind single

/-! ## Resolving -/

def resolveMany (policy : ErrorPolicy) (references : List EntityReference)
    (traits : TraitSet) (access : ResolveAccess) (context : Context) :
    Request (Manager sigma) (Outcome (List (policy.Element TraitsData))) :=
  collect policy references (some access.mode)
    (resolve plugin references traits access context)

def resolveOne (policy : ErrorPolicy) (reference : EntityReference)
    (traits : TraitSet) (access : ResolveAccess) (context : Context) :
    Request (Manager sigma) (Outcome (policy.Element TraitsData)) :=
  one (resolveMany plugin policy [reference] traits access context)

/-! ## Publishing -/

def preflightMany (policy : ErrorPolicy) (references : List EntityReference)
    (hints : List TraitsData) (access : PublishingAccess) (context : Context) :
    Request (Manager sigma) (Outcome (List (policy.Element EntityReference))) :=
  collect policy references (some access.mode)
    (preflight plugin references hints access context)

def preflightOne (policy : ErrorPolicy) (reference : EntityReference)
    (hint : TraitsData) (access : PublishingAccess) (context : Context) :
    Request (Manager sigma) (Outcome (policy.Element EntityReference)) :=
  one (preflightMany plugin policy [reference] [hint] access context)

def registerMany (policy : ErrorPolicy) (references : List EntityReference)
    (datas : List TraitsData) (access : PublishingAccess) (context : Context) :
    Request (Manager sigma) (Outcome (List (policy.Element EntityReference))) :=
  collect policy references (some access.mode)
    (register plugin references datas access context)

def registerOne (policy : ErrorPolicy) (reference : EntityReference)
    (data : TraitsData) (access : PublishingAccess) (context : Context) :
    Request (Manager sigma) (Outcome (policy.Element EntityReference)) :=
  one (registerMany plugin policy [reference] [data] access context)

/-! ## Existence and traits -/

def entityExistsMany (policy : ErrorPolicy) (references : List EntityReference)
    (context : Context) : Request (Manager sigma) (Outcome (List (policy.Element Bool))) :=
  collect policy references none (entityExists plugin references context)

def entityExistsOne (policy : ErrorPolicy) (reference : EntityReference)
    (context : Context) : Request (Manager sigma) (Outcome (policy.Element Bool)) :=
  one (entityExistsMany plugin policy [reference] context)

def entityTraitsMany (policy : ErrorPolicy) (references : List EntityReference)
    (access : EntityTraitsAccess) (context : Context) :
    Request (Manager sigma) (Outcome (List (policy.Element TraitSet))) :=
  collect policy references (some access.mode)
    (entityTraits plugin references access context)

def entityTraitsOne (policy : ErrorPolicy) (reference : EntityReference)
    (access : EntityTraitsAccess) (context : Context) :
    Request (Manager sigma) (Outcome (policy.Element TraitSet)) :=
  one (entityTraitsMany plugin policy [reference] access context)

end Manager
end AssetExchange
