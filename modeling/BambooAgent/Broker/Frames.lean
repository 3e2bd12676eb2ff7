import BambooAgent.Broker.Routing
import Mathlib.Data.List.Infix

/- What one call touches: an acknowledgement the file of its message, a delivery the file that it
   names after the message. -/
namespace Brokers
open Maildir List

/-- `Mailbox::ack`: whether the scan of `cur` finds a file, and what it leaves. -/
def World.ackById (world : World) (chance : Chance) (id : String) : Bool × Maildir :=
  match world.matching chance id with
  | some name => (true, world.maildir.removeFile .cur name)
  | none => (false, world.maildir)

/- Paths, from the root, as the system follows them; there are no links. -/

abbrev Path := List (List Char)

def components (path : String) : List (List Char) := path.toList.splitOn '/'

def follow (dir : Path) (component : List Char) : Path :=
  if component = [] ∨ component = ['.'] then dir
  else if component = ['.', '.'] then dir.dropLast
  else dir ++ [component]

/-- An absolute path takes the place of what it is joined to. -/
def join (dir : Path) (path : String) : Path :=
  (components path).foldl follow (if path.toList.head? = some '/' then [] else dir)

def newDir (root : Path) (sessionId : String) : Path :=
  join (join (join root "mailboxes") sessionId) "new"

/-- The file that `Mailbox::deliver` creates or replaces. -/
def deliveredTo (root : Path) (sessionId : String) (message : InboxMessage) : Path :=
  join (newDir root sessionId) message.fileName

/-- The directories that `atomic_write` makes in `new` on the way to the file. -/
def dirsTo (root : Path) (sessionId : String) (message : InboxMessage) : List Path :=
  (components message.fileName).dropLast.inits.tail.map
    (List.foldl follow (newDir root sessionId))

/-- Nothing goes but the claimed file of the message. -/
structure TakesOnly (id : String) (maildir after : Maildir) : Prop where
  theirs : ∀ dir, ∀ message ∈ maildir.files dir, message ∉ after.files dir →
    dir = .cur ∧ message.id = id
  once : ∀ message ∈ maildir.files .cur, message ∉ after.files .cur →
    ∀ other ∈ maildir.files .cur, other ∉ after.files .cur → message.fileName = other.fileName
  fewer : ∀ dir, ∀ message ∈ after.files dir, message ∈ maildir.files dir

/-- The calls keep apart the messages and the mailboxes whose ids are in use. -/
structure KeptApart (used sessions : String → Prop) : Prop where
  acks : ∀ (world : World) chance id, used id →
    (∀ message ∈ world.maildir.files .cur, used message.id) →
    TakesOnly id world.maildir (world.ackById chance id).2
  mailboxes : ∀ root sessionId, sessions sessionId →
    newDir root sessionId = root ++ ["mailboxes".toList, sessionId.toList, "new".toList]
  delivers : ∀ root sessionId (message : InboxMessage), used message.id →
    dirsTo root sessionId message = [] ∧
      ∃ leaf, deliveredTo root sessionId message = newDir root sessionId ++ [leaf]
  files : ∀ root sessionId (message other : InboxMessage), used message.id → used other.id →
    deliveredTo root sessionId message = deliveredTo root sessionId other → message.id = other.id

/-- A name that is one step down. -/
abbrev PlainName (name : String) : Prop :=
  '/' ∉ name.toList ∧ name.toList ≠ [] ∧ name.toList ≠ ['.'] ∧ name.toList ≠ ['.', '.']

theorem plain_padded (number : Nat) (other : c.isDigit = false) :
    c ∉ (InboxMessage.padded number).toList := by
  unfold InboxMessage.padded
  rw [String.toList_ofList, mem_append, not_or]
  refine ⟨fun zero => ?_, fun digit => ?_⟩
  · rw [(mem_replicate.1 zero).2] at other
    cases other
  · rw [Nat.isDigit_of_mem_toDigits (by decide) (by decide) digit] at other
    cases other

theorem fileName_toList (message : InboxMessage) : message.fileName.toList =
    ((InboxMessage.padded message.nanos).toList ++ '-' :: message.id.toList) ++ ".json".toList := by
  simp [InboxMessage.fileName]

/-- The dash in front of an id is the only one before it. -/
theorem endsInId_fileName {id : String} {message : InboxMessage} : endsInId id message.fileName = true ↔
    message.id = id ∨ ('-' :: id.toList) <:+ message.id.toList := by
  have needle : ("-" ++ id ++ ".json").toList = ('-' :: id.toList) ++ ".json".toList := by simp
  rw [endsInId, isSuffixOf_iff_suffix, needle, fileName_toList, suffix_append_self_iff]
  constructor
  · intro suffix
    rcases suffix_or_suffix_of_suffix suffix (suffix_append _ _) with inner | outer
    · rcases suffix_cons_iff.1 inner with same | inner
      · exact .inl (String.toList_injective (List.cons.inj same).2).symm
      · exact .inr inner
    · obtain ⟨front, same⟩ := outer
      cases front with
      | nil => exact .inl (String.toList_injective (List.cons.inj same).2)
      | cons dash front =>
        rw [← same, suffix_append_self_iff] at suffix
        have dashed : dash = '-' := (List.cons.inj same).1
        rw [dashed] at suffix
        exact absurd (suffix.subset mem_cons_self) (plain_padded _ rfl)
  · rintro (rfl | suffix)
    · exact suffix_append _ _
    · exact (suffix.trans (suffix_cons _ _)).trans (suffix_append _ _)

theorem same_of_fileName {message other : InboxMessage}
    (same : message.fileName = other.fileName) : message.id = other.id := by
  have here := endsInId_fileName.1 (same ▸ endsInId_fileName.2 (.inl rfl) :
    endsInId message.id other.fileName = true)
  have there := endsInId_fileName.1 (same ▸ endsInId_fileName.2 (.inl rfl) :
    endsInId other.id message.fileName = true)
  rcases here with equal | inner
  · exact equal.symm
  · rcases there with equal | outer
    · exact equal
    · have first := inner.length_le
      have second := outer.length_le
      rw [length_cons] at first second
      omega

/- Deliveries. -/

theorem slash_fileName {message : InboxMessage} :
    '/' ∈ message.fileName.toList ↔ '/' ∈ message.id.toList := by
  have plain := plain_padded message.nanos (c := '/') (by decide)
  rw [fileName_toList]
  simp [plain]

theorem components_plain (plain : '/' ∉ path.toList) :
    components path = [path.toList] := splitOn_eq_singleton plain

theorem components_slashed (slashed : '/' ∈ path.toList) :
    ∃ first second rest, components path = first :: second :: rest := by
  obtain ⟨before, after, same⟩ := append_of_mem slashed
  have split : components path = before.splitOn '/' ++ after.splitOn '/' := by
    rw [components, same, splitOn_append_cons_self]
  obtain ⟨first, front, here⟩ := exists_cons_of_ne_nil (splitOn_ne_nil '/' before)
  obtain ⟨second, back, there⟩ := exists_cons_of_ne_nil (splitOn_ne_nil '/' after)
  rw [here, there] at split
  cases front with
  | nil => exact ⟨first, second, back, split⟩
  | cons next front => exact ⟨first, next, front ++ second :: back, split⟩

theorem components_whole (member : component ∈ components path) :
    '/' ∉ component := by
  unfold components at member
  generalize path.toList = text at member
  induction text generalizing component with
  | nil =>
    rw [splitOn_nil, mem_singleton] at member
    rw [member]
    exact not_mem_nil
  | cons c text ih =>
    rw [splitOn_cons_eq_if_modifyHead] at member
    split at member
    · rcases mem_cons.1 member with rfl | later
      · exact not_mem_nil
      · exact ih later
    · rename_i different
      obtain ⟨first, rest, split⟩ := exists_cons_of_ne_nil (splitOn_ne_nil '/' text)
      rw [split] at member
      rcases mem_cons.1 member with rfl | later
      · intro slash
        rcases mem_cons.1 slash with rfl | later
        · exact different (beq_self_eq_true '/')
        · exact ih (split ▸ mem_cons_self) later
      · exact ih (split ▸ mem_cons_of_mem _ later)

theorem mem_join (member : component ∈ join dir path) :
    component ∈ dir ∨ '/' ∉ component := by
  have steps : ∀ (list : List (List Char)) (start : Path),
      component ∈ list.foldl follow start → component ∈ start ∨ component ∈ list := by
    intro list
    induction list with
    | nil => exact fun start => .inl
    | cons first list ih =>
      intro start member
      rcases ih _ member with here | later
      · unfold follow at here
        split at here
        · exact .inl here
        · split at here
          · exact .inl (mem_of_mem_dropLast here)
          · rcases mem_append.1 here with old | new
            · exact .inl old
            · exact .inr (mem_cons.2 (.inl (mem_singleton.1 new)))
      · exact .inr (mem_cons_of_mem _ later)
  rcases steps _ _ member with start | listed
  · split at start
    · cases start
    · exact .inl start
  · exact .inr (components_whole listed)

theorem follow_eq : follow dir component = dir ++ [component] ↔
    component ≠ [] ∧ component ≠ ['.'] ∧ component ≠ ['.', '.'] := by
  have longer : (dir ++ [component]).length = dir.length + 1 := by simp
  unfold follow
  split
  · rename_i here
    refine ⟨fun same => ?_, fun plain => absurd here (not_or.2 ⟨plain.1, plain.2.1⟩)⟩
    rw [← same] at longer
    omega
  · rename_i elsewhere
    split
    · rename_i up
      refine ⟨fun same => ?_, fun plain => absurd up plain.2.2⟩
      rw [← same, length_dropLast] at longer
      omega
    · rename_i down
      exact iff_of_true rfl ⟨(not_or.1 elsewhere).1, (not_or.1 elsewhere).2, down⟩

theorem join_whole (whole : '/' ∉ name.toList) : join dir name = follow dir name.toList := by
  have relative : name.toList.head? ≠ some '/' := fun slash => whole (mem_of_head? slash)
  rw [join, components_plain whole, if_neg relative, foldl_cons, foldl_nil]

theorem join_plain (plain : PlainName name) : join dir name = dir ++ [name.toList] := by
  rw [join_whole plain.1]
  exact follow_eq.2 plain.2

theorem plain_fileName {message : InboxMessage} (plain : '/' ∉ message.id.toList) :
    PlainName message.fileName := by
  have long : 5 < message.fileName.toList.length := by
    rw [fileName_toList, length_append, length_append, length_cons]
    have json : ".json".toList.length = 5 := rfl
    omega
  have named : ∀ component : List Char, component.length < 5 →
      message.fileName.toList ≠ component := by
    intro component short same
    rw [same] at long
    exact lt_asymm short long
  exact ⟨fun slash => plain (slash_fileName.1 slash), named _ (by decide), named _ (by decide),
    named _ (by decide)⟩

theorem newDir_parts : newDir root sessionId =
    join (root ++ ["mailboxes".toList]) sessionId ++ ["new".toList] := by
  rw [newDir, join_plain (show PlainName "new" by decide),
    join_plain (show PlainName "mailboxes" by decide)]

theorem plain_of_newDir (same : newDir [] sessionId =
    ["mailboxes".toList, sessionId.toList, "new".toList]) : PlainName sessionId := by
  have made : join ["mailboxes".toList] sessionId = ["mailboxes".toList, sessionId.toList] :=
    (append_inj' (newDir_parts.symm.trans same :
      _ = ["mailboxes".toList, sessionId.toList] ++ ["new".toList]) rfl).1
  by_cases slashed : '/' ∈ sessionId.toList
  · have member : sessionId.toList ∈ join ["mailboxes".toList] sessionId := by
      rw [made]
      exact mem_cons_of_mem _ mem_cons_self
    rcases mem_join member with old | whole
    · rw [mem_singleton.1 old] at slashed
      exact absurd slashed (by decide)
    · exact absurd slashed whole
  · rw [join_whole slashed] at made
    exact ⟨slashed, follow_eq.1 made⟩

theorem dirsTo_slashed (message : InboxMessage) (slashed : '/' ∈ message.id.toList) :
    dirsTo root sessionId message ≠ [] := by
  obtain ⟨first, second, rest, split⟩ := components_slashed (slash_fileName.2 slashed)
  rw [dirsTo, split, dropLast_cons_cons, inits_cons, tail_cons, map_map]
  intro empty
  have none : (second :: rest).dropLast.inits.length = 0 := by
    rw [map_eq_nil_iff.1 empty, length_nil]
  rw [length_inits] at none
  cases none

/- Acknowledgements. -/

theorem matching_some {world : World} {id : String} (found : world.matching chance id = some name) :
    ∃ message ∈ world.maildir.files .cur, message.fileName = name ∧ endsInId id name = true := by
  have listed : name ∈ ((world.maildir.files .cur).map (·.fileName)).filter (endsInId id) := by
    unfold World.matching at found
    dsimp only at found
    split at found
    · rename_i present
      rw [← Option.some.inj found]
      exact present
    · exact mem_of_head? found
  obtain ⟨member, ends⟩ := mem_filter.1 listed
  obtain ⟨message, there, same⟩ := mem_map.1 member
  exact ⟨message, there, same, ends⟩

theorem ackById_takesOnly {world : World} {id : String}
    (apart : ∀ message ∈ world.maildir.files .cur, ¬ ('-' :: id.toList) <:+ message.id.toList) :
    TakesOnly id world.maildir (world.ackById chance id).2 := by
  unfold World.ackById
  cases found : world.matching chance id with
  | none =>
    exact ⟨fun _ _ member gone => absurd member gone, fun _ member gone => absurd member gone,
      fun _ _ member => member⟩
  | some name =>
    obtain ⟨taken, there, rfl, ends⟩ := matching_some found
    have own := (endsInId_fileName.1 ends).resolve_right (apart taken there)
    have left : ∀ dir, ∀ message ∈ world.maildir.files dir,
        message ∉ (world.maildir.removeFile .cur taken.fileName).files dir →
        dir = .cur ∧ message.fileName = taken.fileName := by
      intro dir message member gone
      by_contra other
      exact gone (mem_removeFile.2 ⟨member, other⟩)
    refine ⟨fun dir message member gone => ?_, fun message member gone other member' gone' => ?_,
      fun dir message member => (mem_removeFile.1 member).1⟩
    · obtain ⟨claimed, same⟩ := left dir message member gone
      exact ⟨claimed, (same_of_fileName same).trans own⟩
    · exact (left _ message member gone).2.trans (left _ other member' gone').2.symm

def claimedOne (id : String) : World :=
  { vacant with maildir := Maildir.empty.setFolder .cur (some [⟨id, .task, .other "", none⟩]) }

theorem ackById_suffix {id : String} (suffix : ('-' :: id.toList) <:+ other.toList) :
    ¬ TakesOnly id (claimedOne other).maildir ((claimedOne other).ackById usual id).2 := by
  intro takes
  have ends : endsInId id (InboxMessage.fileName ⟨other, .task, .other "", none⟩) = true :=
    endsInId_fileName.2 (.inr suffix)
  have here : (claimedOne other).maildir.files .cur = [⟨other, .task, .other "", none⟩] := rfl
  have gone : ⟨other, .task, .other "", none⟩ ∉ ((claimedOne other).ackById usual id).2.files .cur := by
    unfold World.ackById
    cases found : (claimedOne other).matching usual id with
    | none =>
      unfold World.matching at found
      rw [here, map_singleton, filter_cons_of_pos ends] at found
      dsimp only at found
      split at found <;> cases found
    | some name =>
      obtain ⟨message, there, named, _⟩ := matching_some found
      rw [here] at there
      intro member
      refine (mem_removeFile.1 member).2 ⟨rfl, ?_⟩
      rw [← named, mem_singleton.1 there]
  have same : other = id := (takes.theirs .cur _ (here ▸ mem_singleton.2 rfl) gone).2
  have long := suffix.length_le
  rw [same, length_cons] at long
  omega

theorem frames_exact : KeptApart used sessions ↔ (∀ id, used id → '/' ∉ id.toList) ∧
    (∀ id other, used id → used other → ¬ ('-' :: id.toList) <:+ other.toList) ∧
    ∀ sessionId, sessions sessionId → PlainName sessionId := by
  constructor
  · intro kept
    refine ⟨fun id inUse slashed => ?_, fun id other inUse inUse' suffix => ?_,
      fun sessionId inUse => ?_⟩
    · exact dirsTo_slashed ⟨id, .task, .other "", none⟩ slashed (kept.delivers [] "" _ inUse).1
    · refine ackById_suffix suffix (kept.acks _ usual id inUse (fun message member => ?_))
      rw [List.mem_singleton.1 member]
      exact inUse'
    · exact plain_of_newDir (kept.mailboxes [] sessionId inUse)
  · rintro ⟨whole, apart, plain⟩
    have delivered : ∀ root sessionId (message : InboxMessage), used message.id →
        deliveredTo root sessionId message =
          newDir root sessionId ++ [message.fileName.toList] := fun _ _ message inUse =>
      join_plain (plain_fileName (whole message.id inUse))
    refine ⟨fun world chance id inUse within => ackById_takesOnly (fun message member =>
      apart id message.id inUse (within message member)), fun root sessionId inUse => ?_,
      fun root sessionId message inUse => ⟨?_, _, delivered _ _ _ inUse⟩,
      fun root sessionId message other inUse inUse' same => ?_⟩
    · rw [newDir_parts, join_plain (plain sessionId inUse), List.append_assoc, List.append_assoc]
      rfl
    · rw [dirsTo, components_plain (plain_fileName (whole _ inUse)).1]
      rfl
    · rw [delivered _ _ _ inUse, delivered _ _ _ inUse'] at same
      exact same_of_fileName (String.toList_injective
        (List.cons.inj (List.append_cancel_left same)).1)

theorem another_taken : ¬ KeptApart (fun _ => True) (fun _ => True) := by
  intro kept
  exact @ackById_suffix "x-a" "a" (by decide)
    (kept.acks _ usual "a" trivial (fun _ _ => trivial))

end Brokers
