import AssetExchange.Log.FilterStack
import AssetExchange.Pager.Pages
import AssetExchange.Session.Basic

/-!
# Desks

A desk is where a host works: a session, contexts and pagers kept under names, and
the log. A pager belongs to the manager that handed it out. It is closed at the
moment it leaves the desk: when it is dropped, when another one takes its name, or
when the walk that consumed it leaves; until then only its own requests reach it.

Pagers and walks are kept under separate names, so a walk over a pager does not
occupy the name for a later pager.
-/

namespace AssetExchange

/-- Something that belongs to the manager at a place of the session. -/
structure Held (alpha : Type) where
  owner : Nat
  item : alpha

/-- The working place of a host. -/
structure Desk (sigma pi : Type) where
  session : Session sigma
  contexts : Dictionary Context
  pagers : Dictionary (Held pi)
  walks : Dictionary (Held (Pages pi))
  log : FilterStack

namespace Desk

variable {sigma pi alpha : Type} (plugin : Plugin sigma pi)

def ofSession (session : Session sigma) (log : FilterStack) : Desk sigma pi :=
  ⟨session, .empty, .empty, .empty, log⟩

def askSession (request : Request (Session sigma) alpha) :
    Request (Desk sigma pi) alpha :=
  fun desk => (request desk.session).mapState fun session => { desk with session := session }

def ask (place : Nat) (request : Request (Manager sigma) alpha) :
    Request (Desk sigma pi) (Option alpha) :=
  askSession (Session.askManager place request)

/-- Takes the messages of a reply into the log. -/
def settle (reply : Reply (Desk sigma pi) alpha) : alpha × Desk sigma pi :=
  (reply.answer, { reply.state with log := reply.state.log.logAll reply.messages })

/-! ## Contexts -/

def keepContext (name : String) (context : Context) : Request (Desk sigma pi) Unit :=
  fun desk => ⟨(), { desk with contexts := desk.contexts.insert name context }, []⟩

/-! ## Pagers -/

def close (held : Held pi) : Request (Desk sigma pi) Unit :=
  fun desk => (ask held.owner (Manager.pass (plugin.pagerClose held.item)) desk).map
    fun _ => ()

def closeIfAny (held : Option (Held pi)) : Request (Desk sigma pi) Unit :=
  match held with
  | none => .answer ()
  | some pager => close plugin pager

/-- Keeps a pager under a name; a pager that had the name is closed. -/
def keepPager (name : String) (pager : Held pi) : Request (Desk sigma pi) Unit :=
  fun desk =>
    closeIfAny plugin (desk.pagers.get? name)
      { desk with pagers := desk.pagers.insert name pager }

/-- Keeps a walk under a name; a walk that had the name is closed. -/
def keepWalk (name : String) (walk : Held (Pages pi)) : Request (Desk sigma pi) Unit :=
  fun desk =>
    closeIfAny plugin ((desk.walks.get? name).map fun held => ⟨held.owner, held.item.pager⟩)
      { desk with walks := desk.walks.insert name walk }

def askPager (name : String) (request : pi → Request sigma (pi × alpha)) :
    Request (Desk sigma pi) (Option alpha) :=
  fun desk =>
    match desk.pagers.get? name with
    | none => ⟨none, desk, []⟩
    | some held =>
        let reply := ask held.owner (Manager.pass (request held.item)) desk
        match reply.answer with
        | none => ⟨none, reply.state, reply.messages⟩
        | some (pager, answer) =>
            ⟨some answer,
              { reply.state with
                pagers := reply.state.pagers.insert name ⟨held.owner, pager⟩ },
              reply.messages⟩

/-- Turns the pager with a name into a walk under the same name. -/
def startWalk (name : String) : Request (Desk sigma pi) (Option (Pages pi)) :=
  fun desk =>
    match desk.pagers.get? name with
    | none => ⟨none, desk, []⟩
    | some held =>
        let walk := Pages.ofPager held.item
        (keepWalk plugin name ⟨held.owner, walk⟩
          { desk with pagers := desk.pagers.erase name }).map fun _ => some walk

def walkOn (name : String) :
    Request (Desk sigma pi) (Option (Option (Outcome (List EntityReference)))) :=
  fun desk =>
    match desk.walks.get? name with
    | none => ⟨none, desk, []⟩
    | some held =>
        let reply := ask held.owner (Manager.pass (Pages.next plugin held.item)) desk
        match reply.answer with
        | none => ⟨none, reply.state, reply.messages⟩
        | some (walk, item) =>
            ⟨some item,
              { reply.state with
                walks := reply.state.walks.insert name ⟨held.owner, walk⟩ },
              reply.messages⟩

def pageLimit : Nat := 1000

def collect (held : Held pi) :
    Request (Desk sigma pi) (Option (List (Outcome (List EntityReference)))) :=
  fun desk =>
    (ask held.owner (Manager.pass
      (Pages.take plugin pageLimit (Pages.ofPager held.item))) desk).bind fun
        | none => .answer none
        | some (walk, items) => fun desk =>
            (close plugin ⟨held.owner, walk.pager⟩ desk).map fun _ => some items

/-- Collects the pages of the pager with a name, which leaves the desk. -/
def collectPages (name : String) :
    Request (Desk sigma pi) (Option (List (Outcome (List EntityReference)))) :=
  fun desk =>
    match desk.pagers.get? name with
    | none => ⟨none, desk, []⟩
    | some held => collect plugin held { desk with pagers := desk.pagers.erase name }

/-- Drops the pager and the walk with a name; says whether there was one. -/
def drop (name : String) : Request (Desk sigma pi) Bool :=
  fun desk =>
    let pager := desk.pagers.get? name
    let walk := (desk.walks.get? name).map fun held : Held (Pages pi) =>
      (⟨held.owner, held.item.pager⟩ : Held pi)
    (closeIfAny plugin pager
      { desk with pagers := desk.pagers.erase name, walks := desk.walks.erase name }).bind
        fun _ desk => (closeIfAny plugin walk desk).map fun _ =>
          pager.isSome || walk.isSome

end Desk
end AssetExchange
