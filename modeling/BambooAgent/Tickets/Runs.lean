import BambooAgent.Library.Batches
import BambooAgent.Tickets.ControlInversion
import BambooAgent.Tickets.WorkspaceFiles

/- The runs of one scope: every way a snapshot gets published, and the rule by which a
   property holds of every snapshot reached. -/
namespace Tickets
open SortedMaps Evolutions Batches

/-- What the identifier generator promises: the identifiers differ and name no record. -/
structure Fresh (snapshot : Snapshot) (uuids : List String) : Prop where
  distinct : uuids.Nodup
  tickets : ∀ id ∈ uuids, snapshot.tickets.lookup id = none
  assignments : ∀ id ∈ uuids, snapshot.assignments.lookup id = none
  requests : ∀ id ∈ uuids, snapshot.requests.lookup id = none
  submissions : ∀ id ∈ uuids, snapshot.submissions.lookup id = none

/-- Two snapshots that agree on everything execution depends on. -/
structure SameFacts (snapshot next : Snapshot) : Prop where
  binding : next.binding = snapshot.binding
  authorityEpoch : next.authorityEpoch = snapshot.authorityEpoch
  tickets : next.tickets = snapshot.tickets
  assignments : next.assignments = snapshot.assignments
  requests : next.requests = snapshot.requests
  submissions : next.submissions = snapshot.submissions
  intents : next.intents = snapshot.intents
  project : next.project = snapshot.project

inductive Publication where
  | operated (files : Files) (authority : Authority) (operations : List (Operation × String))
  | restarted
  | fileStarted
  | fileFinished
  | fileReconciled
  | activated
  | recorded

def settledGroup (applied : Snapshot) (receipts : SortedMap String OperationReceipt)
    (resolutions : SortedMap String MessageResolution) : Snapshot :=
  { applied with receipts := receipts, resolutions := resolutions }

/-- The publications of one scope. Message bookkeeping, token accounting, Sprint planning
    and the retirement of a migrated scope touch no fact that execution depends on. -/
inductive Publishes (codec : Codec) : Publication → Snapshot → Snapshot → Prop where
  | executed (fresh : Fresh snapshot ((stamped uuids 0 command.operations).map Prod.snd))
      (run : execute codec files health snapshot authority uuids command =
        .ok (receipt, some next)) :
      Publishes codec (.operated files authority (stamped uuids 0 command.operations)) snapshot next
  | settled (user : authority.user = .ok ())
      (fresh : Fresh snapshot (operations.map Prod.snd))
      (run : operate codec files snapshot authority operations = .ok (applied, ids))
      (valid : validateSnapshot codec (settledGroup applied receipts resolutions) = .ok ()) :
      Publishes codec (.operated files authority operations) snapshot
        (publish (settledGroup applied receipts resolutions))
  | restarted (run : fromStore codec snapshot = .ok next) :
      Publishes codec .restarted snapshot next
  | fileStarted
      (run : startFileWrite codec files health snapshot authority write = .ok (some next)) :
      Publishes codec .fileStarted snapshot next
  | fileFinished -- One call publishes the intent and the success without letting go of the store.
      (started : startFileWrite codec files health earlier authority write = .ok (some snapshot))
      (run : finishFileWrite codec snapshot authority write observedAtMs = .ok next) :
      Publishes codec .fileFinished snapshot next
  | fileReconciled {commit : String}
      (run : reconcileFileEffect codec files health offline commit snapshot authority request =
        .ok (some next)) :
      Publishes codec .fileReconciled snapshot next
  | activated
      (run : activateMigratedCopy codec snapshot authority request retiredCommit = .ok next) :
      Publishes codec .activated snapshot next
  | recorded (same : SameFacts snapshot next)
      (seq : next.seq = snapshot.seq + 1) (valid : validateSnapshot codec next = .ok ()) :
      Publishes codec .recorded snapshot next

def Step (codec : Codec) (snapshot next : Snapshot) : Prop := ∃ p, Publishes codec p snapshot next

abbrev Leads (codec : Codec) : Snapshot → Snapshot → Prop := Relation.ReflTransGen (Step codec)

/-- The snapshots of the runs that start from an empty scope. -/
def Reachable (codec : Codec) (snapshot : Snapshot) : Prop :=
  ∃ binding, Leads codec (Snapshot.empty binding) snapshot

end Tickets
