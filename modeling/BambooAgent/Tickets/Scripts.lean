import BambooAgent.Tickets.Publications

/- Runs written down as data. A script is executed like the run it stands for, and every
   snapshot it leads to is reachable. -/
namespace Tickets
open SortedMaps

inductive Event where
  | command (label : String) (authority : Authority) (operations : List Operation)
  | restart

/-- The identifiers of one command of a script. -/
def identifiers (label : String) (i : Nat) : String := label ++ toString i

def scriptCommand (snapshot : Snapshot) (label : String) (operations : List Operation) :
    Command where
  operationId := label
  binding := snapshot.binding
  expectedSeq := snapshot.seq
  expectedEpoch := snapshot.authorityEpoch
  operations := operations
  source := none

instance (snapshot : Snapshot) (uuids : List String) : Decidable (Fresh snapshot uuids) :=
  decidable_of_iff (uuids.Nodup ∧ (∀ id ∈ uuids, snapshot.tickets.lookup id = none) ∧
      (∀ id ∈ uuids, snapshot.assignments.lookup id = none) ∧
      (∀ id ∈ uuids, snapshot.requests.lookup id = none) ∧
      (∀ id ∈ uuids, snapshot.submissions.lookup id = none))
    ⟨fun ⟨distinct, tickets, assignments, requests, submissions⟩ =>
      ⟨distinct, tickets, assignments, requests, submissions⟩,
      fun fresh => ⟨fresh.distinct, fresh.tickets, fresh.assignments, fresh.requests,
        fresh.submissions⟩⟩

/-- An event that is refused, or that publishes nothing, ends the script. -/
def play (codec : Codec) (files : Files) (snapshot : Snapshot) : Event → Option Snapshot
  | .command label authority operations =>
      if Fresh snapshot ((stamped (identifiers label) 0 operations).map Prod.snd) then
        (execute codec files .writable snapshot authority (identifiers label)
          (scriptCommand snapshot label operations)).toOption.bind Prod.snd
      else none
  | .restart => (fromStore codec snapshot).toOption

def playAll (codec : Codec) (files : Files) (snapshot : Snapshot) : List Event → Snapshot
  | [] => snapshot
  | event :: rest =>
      match play codec files snapshot event with
      | none => snapshot
      | some next => playAll codec files next rest

section Playing
variable {codec : Codec} {files : Files} {snapshot next : Snapshot}

theorem toOption_ok {run : Result α} (found : run.toOption = some a) : run = .ok a := by
  cases run with
  | error _ => cases found
  | ok _ =>
    cases found
    rfl

theorem play_command
    (played : play codec files snapshot (.command label authority operations) = some next) :
    Fresh snapshot ((stamped (identifiers label) 0 operations).map Prod.snd) ∧
      ∃ receipt, execute codec files .writable snapshot authority (identifiers label)
        (scriptCommand snapshot label operations) = .ok (receipt, some next) := by
  simp only [play] at played
  split at played
  · rename_i fresh
    rw [Option.bind_eq_some_iff] at played
    obtain ⟨⟨receipt, published⟩, accepted, same⟩ := played
    cases same
    exact ⟨fresh, receipt, toOption_ok accepted⟩
  · cases played

theorem play_publishes
    (played : play codec files snapshot (.command label authority operations) = some next) :
    Publishes codec (.operated files authority (stamped (identifiers label) 0 operations))
      snapshot next := by
  obtain ⟨fresh, _, run⟩ := play_command played
  exact .executed fresh run

theorem play_restart (played : play codec files snapshot .restart = some next) :
    Publishes codec .restarted snapshot next := .restarted (toOption_ok played)

theorem play_step (played : play codec files snapshot event = some next) :
    Step codec snapshot next := by
  cases event with
  | command label authority operations => exact ⟨_, play_publishes played⟩
  | restart => exact ⟨_, play_restart played⟩

theorem playAll_leads (events : List Event) :
    Leads codec snapshot (playAll codec files snapshot events) := by
  induction events generalizing snapshot with
  | nil => exact .refl
  | cons event rest ih =>
    simp only [playAll]
    cases played : play codec files snapshot event with
    | none => exact .refl
    | some next => exact .head (play_step played) ih

theorem script_reachable (binding : ScopeBinding) (events : List Event) :
    Reachable codec (playAll codec files (Snapshot.empty binding) events) :=
  ⟨binding, playAll_leads events⟩

end Playing

/- A small scope for the runs shown below. Its system has every directory and no artifact
   text, and all canonical texts in it are short. -/
namespace Sample

def hash : String := "0000000000000000000000000000000000000000000000000000000000000000"

def codec : Codec where
  canonicalBytes := fun _ => "\x7b\x7d"
  contentHash := fun _ => hash
  parseFileOperation := fun _ => none
  parseRfc3339 := fun _ => none

def files : Files where
  root := "/store"
  canonicalize := some
  isDir := fun _ => true
  readArtifact := fun _ _ => .ok (0, some "")
  observedHash := fun _ _ => .ok none

def binding : ScopeBinding := ⟨"scope", "session", 1⟩

def supervisor : Authority := ⟨binding, .supervisor "session"⟩

def user : Authority := ⟨binding, .user "person"⟩

def runtime : Authority := ⟨binding, .runtime⟩

def contract (title : String) : Contract :=
  ⟨title, "objective", [], ["done"], false, SortedSet.ofList ["Task"]⟩

def worker : Authority := ⟨binding, .worker "a2" 1 "run" "worker"⟩

def workspace (name : String) : ExecutionWorkspace where
  repo := "repo"
  baseCommit := "0000000000000000000000000000000000000000"
  branch := "main"
  worktree := "/" ++ name
  writeRoots := ["/" ++ name ++ "/src"]
  claims := SortedSet.ofList ["worktree:/" ++ name]

def reached (events : List Event) : Snapshot :=
  playAll codec files (Snapshot.empty binding) events

theorem reached_reachable (events : List Event) : Reachable codec (reached events) :=
  script_reachable binding events

def approvedRun : List Event :=
  [.command "a" supervisor [
      .create "x" .work none (contract "first") SortedSet.empty, .ready "x",
      .start "x" "run" none],
    .command "b" runtime [
      .admitted "a2" ⟨"scope/a2/1", hash, "run", "worker"⟩],
    .command "c" supervisor [
      .ask "a0" "q" "may it?" (some ⟨"push", "main", "data", none, SortedSet.empty, "high"⟩)],
    .command "d" user [.decideApproval "c0" 1 hash true]]

end Sample

end Tickets
