import RecordSql.Entity
import RecordSql.Event

/-! # Keys of entities

For each entity name the registry knows the auto key, which the database fills in, and the conflict
keys, which decide whether two rows are the same. Entities of one name share their keys. The first
registration of each kind stays; a later one is refused and changes nothing (`KeyRegistry.attempt`,
`KeyRegistry.run`). -/

namespace RecordSql

/-- The two kinds of keys. -/
inductive KeyKind
  /-- The key that the database fills in. -/
  | auto
  /-- The key that identifies a row. -/
  | conflict
  deriving DecidableEq, Repr

/-- The words for a kind of key. -/
def KeyKind.name : KeyKind → Text
  | auto => "auto key".toList
  | conflict => "conflict key".toList

/-- A request to record a key of an entity. -/
inductive Registration
  /-- The field that the database fills in. -/
  | autoKey (entity : Entity) (field : Text)
  /-- The fields that identify a row. -/
  | conflictKey (entity : Entity) (fields : List Text)
  deriving DecidableEq, Repr

/-- The keys that an entity asks for itself. -/
structure KeyDeclaration where
  /-- The entity that asks. -/
  entity : Entity
  /-- The auto key, if there is one. -/
  autoKey : Option Text
  /-- The conflict keys, if there are some. -/
  conflictKeys : Option (List Text)
  deriving DecidableEq, Repr

/-- The registrations that carry the declaration out: the auto key, then the conflict keys. -/
def KeyDeclaration.registrations (d : KeyDeclaration) : List Registration :=
  (d.autoKey.map (Registration.autoKey d.entity)).toList
    ++ (d.conflictKeys.map (Registration.conflictKey d.entity)).toList

/-- The keys on record, by entity name. -/
structure KeyRegistry where
  /-- The auto key of each name that has one. -/
  autoKeys : List (Text × Text)
  /-- The conflict keys of each name that has some. -/
  conflictLists : List (Text × List Text)
  deriving DecidableEq, Repr

namespace KeyRegistry

/-- No keys. -/
def empty : KeyRegistry := ⟨[], []⟩

/-- The auto key on record for an entity name. -/
def autoKey? (r : KeyRegistry) (name : Text) : Option Text := r.autoKeys.lookup name

/-- Whether `field` is the auto key of the entity name. -/
def isAutoKey (r : KeyRegistry) (name field : Text) : Bool := r.autoKey? name == some field

/-- The conflict keys on record for an entity name, without the fallback of `conflictKeys`. -/
def conflictList? (r : KeyRegistry) (name : Text) : Option (List Text) :=
  r.conflictLists.lookup name

/-- The conflict keys of an entity name: those on record; without any the auto key alone; without
that none. -/
def conflictKeys (r : KeyRegistry) (name : Text) : List Text :=
  (r.conflictList? name).getD (r.autoKey? name).toList

/-- The event that reports how many keys of each kind are on record. -/
def frozen (r : KeyRegistry) : Event :=
  .registryFrozen r.autoKeys.length r.conflictLists.length

/-- The complaint about an empty list of conflict keys, with the name of the entity. -/
def emptyListReason (name : Text) : Text :=
  "conflict key for '".toList ++ name ++ "' must name at least one field".toList

/-- The entries with `value` stored under `key`, in the place of an older value. -/
def stored {α : Type} (key : Text) (value : α) (entries : List (Text × α)) : List (Text × α) :=
  (key, value) :: entries.filter fun entry => entry.1 != key

end KeyRegistry

/-- A change of the keys on record, which may be refused. What it has changed before the refusal
stays changed. -/
abbrev Recording := ExceptT SqlError (StateM KeyRegistry) Unit

namespace Recording

/-- Refuse `field` unless the entity declares it. -/
def ensureField (e : Entity) (field : Text) : Recording :=
  if e.declares field then pure () else throw (.unknownField e.name field)

/-- Refuse the entity when the entries on record have its name: a duplicate of the given kind. -/
def ensureFree {α : Type} (kind : KeyKind) (e : Entity) (entries : KeyRegistry → List (Text × α)) :
    Recording := do
  if ((entries (← get)).lookup e.name).isSome then throw (.duplicateRegistration e.name kind.name)

/-- Record an auto key: `e` has to declare the field, and its name may have no auto key yet. -/
def autoKey (e : Entity) (field : Text) : Recording := do
  ensureField e field
  ensureFree .auto e KeyRegistry.autoKeys
  modify fun r => { r with autoKeys := KeyRegistry.stored e.name field r.autoKeys }

/-- Record conflict keys: at least one, each a field that `e` declares, and its name may have no
conflict keys yet. The checks are made in this order. -/
def conflictKey (e : Entity) (fields : List Text) : Recording := do
  if fields.isEmpty then throw (.invalid (KeyRegistry.emptyListReason e.name))
  fields.forM (ensureField e)
  ensureFree .conflict e KeyRegistry.conflictLists
  modify fun r => { r with conflictLists := KeyRegistry.stored e.name fields r.conflictLists }

end Recording

/-- The change that a registration asks for. -/
def Registration.recording : Registration → Recording
  | autoKey e field => .autoKey e field
  | conflictKey e fields => .conflictKey e fields

namespace KeyRegistry

/-- Try a registration: whether it is refused, and the registry after it. Nothing in the type says
that a refusal changes nothing; `attempt_eq` does. -/
def attempt (r : KeyRegistry) (request : Registration) : Except SqlError Unit × KeyRegistry :=
  (request.recording.run).run r

/-- Carry out a registration. A registry that has refused it is not used again. -/
def register (r : KeyRegistry) (request : Registration) : Except SqlError KeyRegistry :=
  (r.attempt request).1.map fun _ => (r.attempt request).2

/-- Carry out registrations up to the first that is refused, which gives the error. -/
def registerAll (r : KeyRegistry) (requests : List Registration) : Except SqlError KeyRegistry :=
  requests.foldlM register r

/-- Carry out what the declarations ask for, up to the first refusal. -/
def collect (r : KeyRegistry) (declarations : List KeyDeclaration) : Except SqlError KeyRegistry :=
  r.registerAll (declarations.flatMap KeyDeclaration.registrations)

/-- The registry to go on with: the one that has been made, or `r` when it was refused. -/
def afterAttempt (r : KeyRegistry) (outcome : Except SqlError KeyRegistry) : KeyRegistry :=
  match outcome with
  | .ok next => next
  | .error _ => r

/-- The registry after a run of registrations, some of which may be refused: each is attempted on
what the one before has left. -/
def run (r : KeyRegistry) (requests : List Registration) : KeyRegistry :=
  requests.foldl (fun r request => (r.attempt request).2) r

end KeyRegistry

end RecordSql
