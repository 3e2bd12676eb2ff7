import BambooAgent.Compression.Segmenter
import Mathlib.Data.List.Dedup

/- What segmentation returns: the messages themselves, in order, cut into chains that an
   assistant call opens and only its own results continue. -/
namespace Compression
open List

/-- The message is an assistant message that calls a tool under this id. -/
def Issues (message : Message) (id : String) : Prop :=
  message.role = .assistant ∧ id ∈ (callsOf message).map (·.id)

/-- The message is the tool result for this id. -/
def Answers (message : Message) (id : String) : Prop :=
  message.role = .tool ∧ message.toolCallId = some id

instance (message : Message) (id : String) : Decidable (Issues message id) :=
  inferInstanceAs (Decidable (_ ∧ _))

instance (message : Message) (id : String) : Decidable (Answers message id) :=
  inferInstanceAs (Decidable (_ ∧ _))

def flatten (segments : List MessageSegment) : List Message := segments.flatMap (·.messages)

def Segmenting.read (state : Segmenting) : List Message :=
  flatten (state.segments ++ state.currentSegment.toList)

@[simp] theorem flatten_append (first second : List MessageSegment) :
    flatten (first ++ second) = flatten first ++ flatten second := by
  exact flatMap_append

@[simp] theorem flatten_nil : flatten [] = [] := rfl

@[simp] theorem flatten_single (segment : MessageSegment) : flatten [segment] = segment.messages := by
  exact flatMap_singleton _ _

@[simp] theorem fromMessage_messages (message : Message) :
    (MessageSegment.fromMessage message).messages = [message] := rfl

theorem close_segments (state : Segmenting) :
    state.close.segments = state.segments ++ state.currentSegment.toList := by
  rw [Segmenting.close]
  split
  · next opened => rw [opened]; rfl
  · next shut => rw [shut]; exact (append_nil _).symm

theorem close_currentSegment (state : Segmenting) : state.close.currentSegment = none := by
  rw [Segmenting.close]
  split
  · rfl
  · next shut => exact shut

variable {message : Message}

theorem pendingAnswer_some {id : String} (found : pendingAnswer pending message = some id) :
    Answers message id ∧ id ∈ pending := by
  unfold pendingAnswer at found
  split at found
  · next tool named =>
    split at found
    · next waits =>
      cases found
      exact ⟨⟨tool, named⟩, waits⟩
    · cases found
  · cases found

theorem pendingAnswer_of_answers {id : String}
    (answers : Answers message id) (waits : id ∈ pending) :
    pendingAnswer pending message = some id := by
  simp only [pendingAnswer, answers.1, answers.2, if_pos waits]

theorem hasToolCalls_of_issues {id : String} (issues : Issues message id) :
    hasToolCalls message = true := by
  obtain ⟨_, listed⟩ := issues
  obtain ⟨call, member, _⟩ := mem_map.1 listed
  unfold callsOf at member
  unfold hasToolCalls
  cases calls : message.toolCalls with
  | none => rw [calls] at member; exact absurd member not_mem_nil
  | some list =>
    rw [calls] at member
    cases list with
    | nil => exact absurd member not_mem_nil
    | cons first rest => rfl

inductive Segmented (state : Segmenting) (message : Message) : Segmenting → Prop
  /-- It answers a call of the open chain, which stays open or closes with it. -/
  | answer (segment : MessageSegment) (id : String) (grown : MessageSegment)
      (opened : state.currentSegment = some segment) (answers : Answers message id)
      (waits : id ∈ state.pendingToolCalls)
      (extended : grown.messages = segment.messages ++ [message])
      (next : Segmenting)
      (outcome : next = ⟨state.segments, some grown, state.pendingToolCalls.erase id⟩ ∨
        next = ⟨state.segments ++ [grown], none, []⟩) :
      Segmented state message next
  /-- It closes the open chain and stands alone. -/
  | alone : Segmented state message (state.close.push (.fromMessage message))
  /-- It closes the open chain and opens its own. -/
  | opens (assistant : message.role = .assistant) (segment : MessageSegment)
      (single : segment.messages = [message]) :
      Segmented state message
        ⟨state.close.segments, some segment, ((callsOf message).map (·.id)).dedup⟩

theorem segmentMessage_cases (state : Segmenting) (spoken : message.role ≠ .system) :
    Segmented state message (segmentMessage state message) := by
  unfold segmentMessage
  split
  · next system => exact absurd system spoken
  all_goals try
    split
    · next segment id opened found =>
      obtain ⟨answers, waits⟩ := pendingAnswer_some found
      refine .answer segment id { segment with messages := segment.messages ++ [message] }
        opened answers waits rfl _ ?_
      dsimp only
      split
      · exact .inr rfl
      · exact .inl rfl
    · exact .alone
  · next assistant =>
    split
    · exact .alone
    · exact .opens assistant _ rfl

variable {state next : Segmenting}

theorem segmented_read (step : Segmented state message next) :
    next.read = state.read ++ [message] := by
  cases step with
  | answer segment id grown opened _ _ extended _ outcome =>
    cases outcome with
    | inl stays =>
      rw [stays, Segmenting.read, Segmenting.read, opened]
      simp [extended]
    | inr closes =>
      rw [closes, Segmenting.read, Segmenting.read, opened]
      simp [extended]
  | alone =>
    rw [Segmenting.read, Segmenting.push, close_currentSegment, close_segments, Segmenting.read]
    simp
  | opens _ segment single =>
    rw [Segmenting.read, close_segments, Segmenting.read]
    simp [single]

theorem foldl_read (messages : List Message) :
    ∀ state : Segmenting, (∀ message ∈ messages, message.role ≠ .system) →
      (messages.foldl segmentMessage state).read = state.read ++ messages := by
  induction messages with
  | nil =>
    intro state _
    exact (append_nil _).symm
  | cons message rest ih =>
    intro state spoken
    have here := spoken message mem_cons_self
    rw [foldl_cons, ih _ (fun m member => spoken m (mem_cons_of_mem message member)),
      segmented_read (segmentMessage_cases state here), append_assoc]
    rfl

theorem segment_flatten (spoken : ∀ message ∈ messages, message.role ≠ .system) :
    flatten (segment messages) = messages := by
  have whole := foldl_read messages .start spoken
  rw [segment, close_segments]
  exact whole

theorem conversationOf_spoken (messages : List Message) :
    ∀ message ∈ conversationOf messages, message.role ≠ .system := by
  intro message member
  exact of_decide_eq_true (mem_filter.1 member).2

/-- The messages of a segment: one message and results of its own calls. -/
def Chained (messages : List Message) : Prop :=
  ∃ head results, messages = head :: results ∧
    ∀ result ∈ results, ∃ id, Answers result id ∧ Issues head id

/-- Every closed segment is a chain and the open one waits for calls of its head. -/
structure ChainsSoFar (state : Segmenting) : Prop where
  closed : ∀ segment ∈ state.segments, Chained segment.messages
  opened : ∀ segment, state.currentSegment = some segment → ∃ head results,
    segment.messages = head :: results ∧
      (∀ result ∈ results, ∃ id, Answers result id ∧ Issues head id) ∧
      ∀ id ∈ state.pendingToolCalls, Issues head id

theorem chained_single (message : Message) : Chained [message] :=
  ⟨message, [], rfl, fun _ member => absurd member not_mem_nil⟩

theorem chainsSoFar_close (sofar : ChainsSoFar state) :
    ∀ segment ∈ state.close.segments, Chained segment.messages := by
  intro segment member
  rw [close_segments] at member
  cases mem_append.1 member with
  | inl old => exact sofar.closed segment old
  | inr last =>
    obtain ⟨head, results, shape, own, _⟩ := sofar.opened segment (Option.mem_toList.1 last)
    exact ⟨head, results, shape, own⟩

theorem chainsSoFar_step (step : Segmented state message next) (sofar : ChainsSoFar state) :
    ChainsSoFar next := by
  cases step with
  | answer segment id grown opened answers waits extended _ outcome =>
    obtain ⟨head, results, shape, own, pending⟩ := sofar.opened segment opened
    have shape' : grown.messages = head :: (results ++ [message]) := by
      rw [extended, shape]
      rfl
    have own' : ∀ result ∈ results ++ [message], ∃ id, Answers result id ∧ Issues head id := by
      intro result member
      cases mem_append.1 member with
      | inl old => exact own result old
      | inr last =>
        cases mem_singleton.1 last
        exact ⟨id, answers, pending id waits⟩
    cases outcome with
    | inl stays =>
      subst stays
      refine ⟨sofar.closed, fun other same => ?_⟩
      cases same
      exact ⟨head, results ++ [message], shape', own',
        fun other member => pending other (mem_of_mem_erase member)⟩
    | inr closes =>
      subst closes
      constructor
      · intro other member
        cases mem_append.1 member with
        | inl old => exact sofar.closed other old
        | inr last =>
          cases mem_singleton.1 last
          exact ⟨head, results ++ [message], shape', own'⟩
      · intro other same
        cases same
  | alone =>
    constructor
    · intro other member
      cases mem_append.1 member with
      | inl old => exact chainsSoFar_close sofar other old
      | inr last =>
        cases mem_singleton.1 last
        exact chained_single message
    · intro other same
      rw [Segmenting.push, close_currentSegment] at same
      cases same
  | opens assistant segment single =>
    refine ⟨chainsSoFar_close sofar, fun other same => ?_⟩
    cases same
    refine ⟨message, [], single, fun _ member => absurd member not_mem_nil, ?_⟩
    intro id member
    exact ⟨assistant, mem_dedup.1 member⟩

theorem chainsSoFar_foldl (messages : List Message) :
    ∀ state, (∀ message ∈ messages, message.role ≠ .system) → ChainsSoFar state →
      ChainsSoFar (messages.foldl segmentMessage state) := by
  induction messages with
  | nil =>
    intro state _ sofar
    exact sofar
  | cons message rest ih =>
    intro state spoken sofar
    apply ih
    · exact fun m member => spoken m (mem_cons_of_mem message member)
    · exact chainsSoFar_step (segmentMessage_cases state (spoken message mem_cons_self)) sofar

theorem segment_chained (spoken : ∀ message ∈ messages, message.role ≠ .system) :
    ∀ part ∈ segment messages, Chained part.messages := by
  apply chainsSoFar_close
  apply chainsSoFar_foldl messages .start spoken
  constructor
  · exact fun segment member => absurd member not_mem_nil
  · intro segment same
    cases same

/-- Some segment, closed or open, begins with these messages. -/
def Begins (state : Segmenting) (start : List Message) : Prop :=
  ∃ segment ∈ state.segments ++ state.currentSegment.toList, ∃ more,
    segment.messages = start ++ more

theorem begins_step (step : Segmented state message next) (begins : Begins state start) :
    Begins next start := by
  obtain ⟨segment, member, more, shape⟩ := begins
  cases step with
  | answer other id grown opened _ _ extended _ outcome =>
    have kept : ∃ part ∈ state.segments ++ [grown], ∃ more, part.messages = start ++ more := by
      rw [opened] at member
      cases mem_append.1 member with
      | inl old => exact ⟨segment, mem_append_left _ old, more, shape⟩
      | inr last =>
        cases mem_singleton.1 last
        refine ⟨grown, mem_append_right _ mem_cons_self, more ++ [message], ?_⟩
        rw [extended, shape, append_assoc]
    cases outcome with
    | inl stays => rw [stays]; exact kept
    | inr closes =>
      rw [closes]
      obtain ⟨part, listed, rest⟩ := kept
      exact ⟨part, mem_append_left _ listed, rest⟩
  | alone =>
    refine ⟨segment, ?_, more, shape⟩
    rw [Segmenting.push, close_segments]
    exact mem_append_left _ (mem_append_left _ member)
  | opens _ other _ =>
    refine ⟨segment, ?_, more, shape⟩
    rw [close_segments]
    exact mem_append_left _ member

theorem begins_foldl (messages : List Message) :
    ∀ state, (∀ message ∈ messages, message.role ≠ .system) → Begins state start →
      Begins (messages.foldl segmentMessage state) start := by
  induction messages with
  | nil =>
    intro state _ begins
    exact begins
  | cons message rest ih =>
    intro state spoken begins
    apply ih
    · exact fun m member => spoken m (mem_cons_of_mem message member)
    · exact begins_step (segmentMessage_cases state (spoken message mem_cons_self)) begins

end Compression
