import FixBindings.Schema.Basic

/-!
# The session layer

Messages of the session layer carry a category of their own.  Groups carry none, so the layer
lists the groups that only session messages use, along with the components of the standard header
and trailer.
-/

set_option autoImplicit false

namespace FixBindings

/-- The identifiers that mark the session layer of a repository. -/
structure SessionLayer where
  /-- The category of session messages. -/
  category : String := "Session"
  /-- The groups that only session messages use. -/
  groupIds : List Int := [2085, 2098]
  /-- The component of the standard header. -/
  headerId : Int := 1024
  /-- The component of the standard trailer. -/
  trailerId : Int := 1025
deriving Repr, DecidableEq, Inhabited

namespace SessionLayer

/-- Whether a component is the standard header or trailer. -/
def isFrame (r : SessionLayer) (componentId : Int) : Bool :=
  componentId == r.headerId || componentId == r.trailerId

/-- Whether a message belongs to the session layer. -/
def ownsMessage (r : SessionLayer) (m : Message) : Bool :=
  m.category.same (.text r.category)

/-- Whether a group belongs to the session layer alone. -/
def ownsGroup (r : SessionLayer) (g : Group) : Bool := r.groupIds.contains g.id

/-- The messages of the application layer and those of the session layer. -/
def splitMessages (r : SessionLayer) (messages : List Message) :
    List Message × List Message :=
  (messages.filter fun m => !r.ownsMessage m, messages.filter r.ownsMessage)

/-- The groups of general use and those of the session layer alone. -/
def splitGroups (r : SessionLayer) (groups : List Group) : List Group × List Group :=
  (groups.filter fun g => !r.ownsGroup g, groups.filter r.ownsGroup)

end SessionLayer
end FixBindings
