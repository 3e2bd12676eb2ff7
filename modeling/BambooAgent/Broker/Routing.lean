import BambooAgent.Broker.Maildir
import BambooAgent.Library.Interleavings

/- One mailbox under any number of senders and connections: every step that a call takes on the
   file system or under the lock of the subscribers is a step of its own. -/
namespace Brokers
open Maildir Interleavings

/-- `connection` stands for the channel of the sinks. -/
structure Subscriber where
  connection : Nat
  orderedActorEvents : Bool
  hostObservation : Option WorkerHostObservation
  deriving DecidableEq

inductive Lane where
  | control | events
  deriving DecidableEq

/-- What went to a sink. -/
structure Push where
  connection : Nat
  lane : Lane
  message : InboxMessage
  deriving DecidableEq

/-- Where a scan takes its messages. `preload` is what a subscribing connection hands to the routing
   of fenced Runs, and is absent for `push_new`. -/
structure Route where
  connection : Nat
  orderedActorEvents : Bool
  preload : Option (Option WorkerHostObservation)

inductive Scan where
  | recover | drain
  deriving DecidableEq

/-- How far a scan has come. `out` is what it has read; all of it is sent at the end. -/
inductive Stage where
  | ensuring (left : List Place)
  | listing
  | taking (names : List String) (out : List InboxMessage)
  | reading (name : String) (names : List String) (out : List InboxMessage)
  | quarantining (name : String) (names : List String) (out : List InboxMessage)
  | sending (out : List InboxMessage)

inductive Sweep where
  | snapshot | scanNew | scanCur | confirm | rescanNew | rescanCur | removing

/-- What a call has still to do. The first four are those of `deliver` before `push_new`. -/
inductive Task where
  | checking (message : InboxMessage)
  | creating (message : InboxMessage)
  | writing (message : InboxMessage)
  | publishing (message : InboxMessage)
  | pushing
  | inserting (route : Route)
  | scanning (scan : Scan) (route : Route) (stage : Stage)
  | announcing (route : Route)
  | unsubscribing (lease : Option Nat)
  | admitting (id : String) (lease : Option Nat)
  | seeking (id : String)
  | removing (id name : String)
  | sweeping (sweep : Sweep)

/-- `owed` is bookkeeping: what has been published and neither acknowledged nor retired since. -/
structure World where
  maildir : Maildir
  subscriber : Option Subscriber
  tasks : List (Option Task)
  connections : Nat
  now : Nat
  sent : List Push
  owed : List InboxMessage

structure AuthenticatedHost where
  hostRef : String
  credentialExpiresAt : Nat

/-- What the removal of the directory tree comes to next; the order is that of the directories. -/
inductive Removal where
  | file (place : Place) (name : String)
  | temp (delivery : Nat)
  | dir (place : Place)
  | closed

/-- What is not up to the broker in a step: whether a file that is there can be read and decoded,
   which matching file the scan of `ack` meets first, and the order of a removal. -/
structure Chance where
  readable : Bool
  name : String
  removal : Removal

inductive Act where
  | deliver (message : InboxMessage)
  | subscribe (role : Option String) (orderedActorEvents : Bool) (host : Option AuthenticatedHost)
      (environmentLeaseV1 : Bool)
  | unsubscribe (lease : Option Nat)
  | ack (id : String) (lease : Option Nat)
  | sweep
  | tick (later : Nat)
  | proceed (place : Nat) (chance : Chance)

namespace World

def launch (world : World) (task : Task) : World :=
  { world with tasks := world.tasks ++ [some task] }

def turn (world : World) (place : Nat) (next : Option Task) : World :=
  { world with tasks := world.tasks.set place next }

def onDisk (world : World) (maildir : Maildir) : World := { world with maildir }

def current (world : World) (connection : Nat) : Bool :=
  world.subscriber.any (fun subscriber => decide (subscriber.connection = connection))

def push (world : World) (push : Push) : World := { world with sent := world.sent ++ [push] }

def forget (world : World) (settled : InboxMessage → Bool) : World :=
  { world with owed := world.owed.filter (fun message => !settled message) }

section Steps
variable (sessionId : String) (world : World) (place : Nat)

/-- The deletion of one claimed file. -/
def retire (delivered : InboxMessage) : World :=
  (world.onDisk (world.maildir.removeFile .cur delivered.fileName)).forget
    (fun message => decide (message.fileName = delivered.fileName))

/-- Under one read lock: no connection is replaced between the check and what follows it. -/
def routeFencedRun (delivered : InboxMessage) (route : Route) : World :=
  match world.subscriber with
  | none => world
  | some current =>
    if route.preload.isSome ∧ current.connection ≠ route.connection then world
    else
      let observation := current.hostObservation.or (route.preload.getD none)
      if fencedRunForObservation delivered sessionId world.now observation then
        world.push ⟨current.connection, .control, delivered⟩
      else
        match observation with
        | none => world
        | some observation =>
          match confirmedStaleFencedRunGeneration delivered sessionId world.now observation with
          | none => world
          | some _ => world.retire delivered

def lane (route : Route) (delivered : InboxMessage) : Lane :=
  if route.orderedActorEvents && delivered.isOrderedActorMessage then .events else .control

def send (delivered : InboxMessage) (route : Route) : World :=
  if delivered.kind = .leasedRun then world
  else if delivered.kind = .fencedRun then world.routeFencedRun sessionId delivered route
  else world.push ⟨route.connection, lane route delivered, delivered⟩

def afterScan (scan : Scan) (route : Route) : Option Task :=
  match scan, route.preload with
  | .recover, _ => some (.scanning .drain route (.ensuring [.new, .cur, .corrupt]))
  | .drain, some _ => some (.announcing route)
  | .drain, none => none

def scanned : Scan → Place
  | .recover => .cur
  | .drain => .new

def scanStep (chance : Chance) (scan : Scan) (route : Route) : Stage → World
  | .ensuring [] => world.turn place (some (.scanning scan route .listing))
  | .ensuring (dir :: left) =>
    (world.onDisk (world.maildir.ensureDir dir)).turn place
      (some (.scanning scan route (.ensuring left)))
  | .listing =>
    world.turn place
      (some (.scanning scan route (.taking (world.maildir.sortedJsonNames (scanned scan)) [])))
  | .taking [] out => world.turn place (some (.scanning scan route (.sending out)))
  | .taking (name :: names) out =>
    match scan with
    | .recover => world.turn place (some (.scanning .recover route (.reading name names out)))
    | .drain =>
      match world.maildir.claim name with
      | some maildir =>
        (world.onDisk maildir).turn place (some (.scanning .drain route (.reading name names out)))
      | none => world.turn place (some (.scanning .drain route (.taking names out)))
  | .reading name names out =>
    match (if chance.readable then world.maildir.find .cur name else none) with
    | some message =>
      world.turn place (some (.scanning scan route (.taking names (out ++ [message]))))
    | none => world.turn place (some (.scanning scan route (.quarantining name names out)))
  | .quarantining name names out =>
    (world.onDisk (world.maildir.quarantine name)).turn place
      (some (.scanning scan route (.taking names out)))
  | .sending [] => world.turn place (afterScan scan route)
  | .sending (delivered :: out) =>
    (world.send sessionId delivered route).turn place (some (.scanning scan route (.sending out)))

/-- What `deliver` refuses before it writes anything. -/
def refused (message : InboxMessage) : Bool :=
  message.kind = .leasedRun
    || (message.kind = .run && message.body.runSpec.any (fun run =>
      run.permissionPolicy.any (fun policy => policy.environmentLease.isSome)))
    || (message.kind = .fencedRun && !fencedRunForObservation message sessionId world.now
      (world.subscriber.bind (·.hostObservation)))

def announce (route : Route) : World :=
  match world.subscriber with
  | none => world
  | some current =>
    if current.connection = route.connection then
      { world with subscriber := some { current with hostObservation := route.preload.getD none } }
    else world

def unsubscribe (lease : Option Nat) : World :=
  match lease with
  | none => { world with subscriber := none }
  | some connection =>
    if world.current connection then { world with subscriber := none } else world

/-- The file of `cur` that the scan of an acknowledgement stops at. -/
def matching (chance : Chance) (id : String) : Option String :=
  let names := ((world.maildir.files .cur).map (·.fileName)).filter (endsInId id)
  if chance.name ∈ names then some chance.name else names.head?

def sweepStep (chance : Chance) : Sweep → World
  | .snapshot =>
    world.turn place (if world.subscriber.isSome then none else some (.sweeping .scanNew))
  | .scanNew =>
    world.turn place
      (if world.maildir.hasMessage .new then none else some (.sweeping .scanCur))
  | .scanCur =>
    world.turn place
      (if world.maildir.hasMessage .cur then none else some (.sweeping .confirm))
  | .confirm =>
    world.turn place (if world.subscriber.isSome then none else some (.sweeping .rescanNew))
  | .rescanNew =>
    world.turn place
      (if world.maildir.hasMessage .new then none else some (.sweeping .rescanCur))
  | .rescanCur =>
    world.turn place
      (if world.maildir.hasMessage .cur then none else some (.sweeping .removing))
  | .removing =>
    match chance.removal with
    | .file dir name => world.onDisk (world.maildir.removeFile dir name)
    | .temp delivery =>
      world.onDisk { world.maildir with
        temps := world.maildir.temps.filter (fun temp => decide (temp ≠ delivery)) }
    | .dir dir => world.onDisk (world.maildir.removeDir dir)
    | .closed => world.turn place none

def advance (chance : Chance) : Task → World
  | .checking message =>
    world.turn place (if world.refused sessionId message then none else some (.creating message))
  | .creating message =>
    (world.onDisk (world.maildir.ensureDir .new)).turn place (some (.writing message))
  | .writing message =>
    match world.maildir.createTemp place with
    | some maildir => (world.onDisk maildir).turn place (some (.publishing message))
    | none => world.turn place none
  | .publishing message =>
    match world.maildir.publish place message with
    | some maildir =>
      { (world.onDisk maildir).turn place (some .pushing) with owed := message :: world.owed }
    | none => world.turn place none
  | .pushing =>
    world.turn place (world.subscriber.map (fun current =>
      .scanning .drain ⟨current.connection, current.orderedActorEvents, none⟩
        (.ensuring [.new, .cur, .corrupt])))
  | .inserting route =>
    { world.turn place (some (.scanning .recover route (.ensuring [.new, .cur, .corrupt]))) with
      subscriber := some ⟨route.connection, route.orderedActorEvents, none⟩ }
  | .scanning scan route stage => world.scanStep sessionId place chance scan route stage
  | .announcing route =>
    (if (route.preload.getD none).isSome then world.announce route else world).turn place none
  | .unsubscribing lease => (world.unsubscribe lease).turn place none
  | .admitting id lease =>
    world.turn place (if lease.all world.current then some (.seeking id) else none)
  | .seeking id => world.turn place ((world.matching chance id).map (.removing id))
  | .removing id name =>
    if (world.maildir.find .cur name).isSome then
      ((world.onDisk (world.maildir.removeFile .cur name)).forget
        (fun message => decide (message.id = id))).turn place none
    else world.turn place none
  | .sweeping sweep => world.sweepStep place chance sweep

end Steps

end World

def observationOf (sessionId : String) (mint : Nat → String) (connection : Nat)
    (role : Option String) (environmentLeaseV1 : Bool) (host : AuthenticatedHost) :
    WorkerHostObservation where
  hostRef := host.hostRef
  mailbox := sessionId
  role := role
  credentialExpiresAt := host.credentialExpiresAt
  connectionGeneration := mint connection
  environmentLeaseV1 := environmentLeaseV1

/-- One step of the mailbox `sessionId`; `mint` is what `MsgId::new` gives to the connections. -/
def step (sessionId : String) (mint : Nat → String) (world : World) : Act → World
  | .deliver message => world.launch (.checking message)
  | .subscribe role ordered host environmentLeaseV1 =>
    { world.launch (.inserting ⟨world.connections, ordered, some (host.map
        (observationOf sessionId mint world.connections role environmentLeaseV1))⟩) with
      connections := world.connections + 1 }
  | .unsubscribe lease => world.launch (.unsubscribing lease)
  | .ack id lease => world.launch (.admitting id lease)
  | .sweep => world.launch (.sweeping .snapshot)
  | .tick later => { world with now := world.now + later }
  | .proceed place chance =>
    match world.tasks[place]?.join with
    | some task => world.advance sessionId place chance task
    | none => world

/-- No operation is in progress. -/
def Quiescent (world : World) : Prop := ∀ task ∈ world.tasks, task = none

instance (world : World) : Decidable (Quiescent world) :=
  inferInstanceAs (Decidable (∀ task ∈ world.tasks, task = none))

/-- A mailbox that there is no directory of yet. -/
def vacant : World := ⟨Maildir.empty, none, [], 0, 0, [], []⟩

def note : InboxMessage := ⟨"m", .task, .other "", some 1⟩

def usual : Chance := ⟨true, "", .closed⟩

end Brokers
