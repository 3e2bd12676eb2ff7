import BambooAgent.Broker.Multiplexing

/- Whose replies the requests of a driver get, and how their waiters leave the table. -/
namespace Brokers.Multiplexing
open List hiding after
open SortedMaps Interleavings SortedMap Bool

def Driver.calls (d : Driver) : List Call := d.requests.map Request.call

/-- The message is a reply to this call. -/
structure Answers (call : Call) (message : InboxMessage) : Prop where
  correlation : message.correlationId = some call.id
  kind : message.kind = call.replyKind
  sender : message.sender = call.target

/-- A request identifier as this driver makes them, for this kind of reply. -/
def Owned (env : Env) (kind : InboxKind) (correlation : String) : Prop :=
  ∃ uuid, env.parseUuid uuid = true ∧
    ((kind = .reply ∧ correlation = askNamespace ++ uuid) ∨
      (kind = .mcpReply ∧ correlation = mcpNamespace ++ uuid))

/- The parts of the invariant. -/

/-- Every waiter stands for its call, and left the table once if it is not there. -/
structure Registered (env : Env) (calls : List Call) (pending : SortedMap String ReplyWaiter)
    (removed : List String) : Prop where
  minted : ∀ place call, calls[place]? = some call →
    call.id = requestNamespace call.kind ++ env.mint place
  entered : ∀ id waiter, pending.lookup id = some waiter → ∃ call,
    calls[waiter.sender]? = some call ∧ call.id = id ∧ call.target = waiter.target ∧
      call.replyKind = waiter.kind
  left : ∀ id ∈ removed, ∃ call ∈ calls, call.id = id
  accounted : ∀ call ∈ calls, removed.count call.id + (pending.contains call.id).toNat = 1

structure Forwarded (calls : List Call) (router : Router) (completed : List (Nat × InboxMessage)) :
    Prop where
  taken : ∀ waiter message, router = .sending waiter message →
    ∃ call, calls[waiter.sender]? = some call ∧ Answers call message
  filled : ∀ place message, (place, message) ∈ completed →
    ∃ call, calls[place]? = some call ∧ Answers call message

/-- What a request has, it has from its channel. -/
structure Backed (env : Env) (completed : List (Nat × InboxMessage)) (place : Nat) (r : Request) :
    Prop where
  slot : ∀ message, r.slot = some message → (place, message) ∈ completed
  read : ∀ message, r.phase = .acking message ∨ r.phase = .confirming message →
    (place, message) ∈ completed
  returned : ∀ text, r.outcome = some (.ok text) →
    ∃ message, (place, message) ∈ completed ∧ parseReply env r.call message.body = .ok text

structure Sound (env : Env) (d : Driver) : Prop where
  registered : Registered env d.calls d.pending d.removed
  forwarded : Forwarded d.calls d.router d.completed
  backed : ∀ place r, d.requests[place]? = some r → Backed env d.completed place r
  closed : ∀ r ∈ d.requests, r.phase = .ended → d.pending.contains r.call.id = false
  retired : ∀ message ∈ d.retired, ∃ correlation, message.correlationId = some correlation ∧
    Owned env message.kind correlation

/- Namespaces. -/

theorem namespace_length (kind : InboxKind) : (requestNamespace kind).toList.length = 11 := by
  unfold requestNamespace
  split <;> rfl

theorem namespace_cancel (same : requestNamespace kind ++ a = requestNamespace other ++ b) :
    a = b := by
  have chars := congrArg String.toList same
  rw [String.toList_append, String.toList_append] at chars
  have split_ := append_inj chars (by rw [namespace_length, namespace_length])
  exact String.toList_injective split_.2

theorem stripPrefix_spec (stripped : stripPrefix start text = some rest) :
    text = start ++ rest := by
  unfold stripPrefix at stripped
  split at stripped
  · rename_i starts
    obtain ⟨tail, whole⟩ := starts
    cases stripped
    apply String.toList_injective
    rw [String.toList_append, String.toList_ofList, ← whole, ← String.length_toList,
      drop_left]
  · cases stripped

theorem stripped_owned {env : Env}
    (owned : (stripPrefix start correlation).any env.parseUuid = true) :
    ∃ uuid, env.parseUuid uuid = true ∧ correlation = start ++ uuid := by
  obtain ⟨uuid, stripped, parses⟩ := (Option.any_eq_true _ _).1 owned
  exact ⟨uuid, parses, stripPrefix_spec stripped⟩

theorem ownedReply_owned (owned : ownedReply env message = true) :
    ∃ correlation, message.correlationId = some correlation ∧
      Owned env message.kind correlation := by
  unfold ownedReply at owned
  split at owned
  · cases owned
  · rename_i correlation there
    refine ⟨correlation, there, ?_⟩
    split at owned
    · rename_i kind
      rw [and_eq_true] at owned
      obtain ⟨uuid, parses, same⟩ := stripped_owned owned.2
      exact ⟨uuid, parses, .inl ⟨kind, same⟩⟩
    · rename_i kind
      rw [and_eq_true] at owned
      obtain ⟨uuid, parses, same⟩ := stripped_owned owned.2
      exact ⟨uuid, parses, .inr ⟨kind, same⟩⟩
    · cases owned

/- The table. -/

variable {call : Call}

theorem calls_unique (distinct : Function.Injective env.mint)
    (table : Registered env calls pending removed) {place : Nat}
    (first : calls[place]? = some a) (second : calls[other]? = some b) (same : a.id = b.id) :
    place = other := by
  rw [table.minted place a first, table.minted other b second] at same
  exact distinct (namespace_cancel same)

theorem next_fresh (distinct : Function.Injective env.mint)
    (table : Registered env calls pending removed)
    (id : call.id = requestNamespace call.kind ++ env.mint calls.length) :
    ∀ old ∈ calls, old.id ≠ call.id := by
  intro old member same
  obtain ⟨place, inside, found⟩ := mem_iff_getElem.1 member
  have there : calls[place]? = some old := by rw [List.getElem?_eq_getElem inside, found]
  rw [table.minted place old there, id] at same
  have equal := distinct (namespace_cancel same)
  omega

theorem pending_known (table : Registered env calls pending removed) {id : String}
    (there : pending.contains id = true) : ∃ call ∈ calls, call.id = id := by
  obtain ⟨waiter, held⟩ := contains_iff.1 there
  obtain ⟨call, found, same, _⟩ := table.entered id waiter held
  exact ⟨call, mem_of_getElem? found, same⟩

theorem registered_insert (distinct : Function.Injective env.mint)
    (table : Registered env calls pending removed)
    (id : call.id = requestNamespace call.kind ++ env.mint calls.length) :
    Registered env (calls ++ [call])
      (pending.insert call.id
        { target := call.target, kind := call.replyKind, sender := calls.length }) removed := by
  have fresh := next_fresh distinct table id
  have unremoved : removed.count call.id = 0 := by
    rw [count_eq_zero]
    intro member
    obtain ⟨old, there, same⟩ := table.left _ member
    exact fresh old there same
  constructor
  · intro place other found
    rw [List.getElem?_append] at found
    split at found
    · exact table.minted place other found
    · obtain ⟨last, same⟩ := List.getElem?_eq_some_iff.1 found
      rw [getElem_singleton] at same
      rw [← same, id]
      rw [length_singleton] at last
      have here : place = calls.length := by omega
      rw [here]
  · intro other waiter held
    rw [lookup_insert] at held
    split at held
    · rename_i same
      cases held
      exact ⟨call, by simp, same.symm, rfl, rfl⟩
    · obtain ⟨old, found, rest⟩ := table.entered other waiter held
      refine ⟨old, ?_, rest⟩
      rw [List.getElem?_append_left (List.getElem?_eq_some_iff.1 found).1]
      exact found
  · intro other member
    obtain ⟨old, there, same⟩ := table.left other member
    exact ⟨old, mem_append_left _ there, same⟩
  · intro other member
    rcases mem_append.1 member with old | new
    · have counted := table.accounted other old
      rw [SortedMap.contains, lookup_insert_other _ _ (fresh other old)]
      exact counted
    · rw [mem_singleton.1 new]
      simp [SortedMap.contains, unremoved]

theorem registered_erase (table : Registered env calls pending removed) {id : String}
    (there : pending.contains id = true) :
    Registered env calls (pending.erase id) (removed ++ [id]) := by
  constructor
  · exact table.minted
  · intro other waiter held
    rw [lookup_erase] at held
    split at held
    · cases held
    · exact table.entered other waiter held
  · intro other member
    rcases mem_append.1 member with before | now_
    · exact table.left other before
    · rw [mem_singleton.1 now_]
      exact pending_known table there
  · intro call member
    have counted := table.accounted call member
    by_cases same : call.id = id
    · subst same
      rw [there] at counted
      simp at counted
      simp [SortedMap.contains, counted]
    · rw [SortedMap.contains] at counted
      rw [SortedMap.contains,
        lookup_erase_other _ same]
      simpa [Ne.symm same] using counted

theorem registered_clear (table : Registered env calls pending removed) :
    Registered env calls .empty (removed ++ pending.keys) := by
  constructor
  · exact table.minted
  · intro id waiter held
    cases held
  · intro id member
    rcases mem_append.1 member with before | now_
    · exact table.left id before
    · exact pending_known table (contains_iff.2 (SortedMap.mem_keys.1 now_))
  · intro call member
    have counted := table.accounted call member
    have keyed : pending.keys.count call.id = (pending.contains call.id).toNat := by
      rw [(keys_nodup pending).count]
      cases held : pending.contains call.id with
      | true => simp [SortedMap.mem_keys, contains_iff.1 held]
      | false => simp [SortedMap.mem_keys, contains_false.1 held]
    rw [count_append, keyed]
    exact counted

/- The steps. -/

theorem backed_mono (backed : Backed env completed place r) (more : List (Nat × InboxMessage)) :
    Backed env (completed ++ more) place r where
  slot := fun message held => mem_append_left _ (backed.slot message held)
  read := fun message held => mem_append_left _ (backed.read message held)
  returned := by
    intro text answered
    obtain ⟨message, member, parses⟩ := backed.returned text answered
    exact ⟨message, mem_append_left _ member, parses⟩

/-- The request goes on without a reply in hand. -/
structure Quiet (r after : Request) : Prop where
  call : after.call = r.call
  slot : after.slot = r.slot
  empty : ∀ message, after.phase ≠ .acking message ∧ after.phase ≠ .confirming message
  outcome : ∀ text, after.outcome = some (.ok text) → r.outcome = some (.ok text)
  open_ : after.phase ≠ .ended

/-- What an event can do to a request. -/
inductive Met (env : Env) (r : Request) : Request → Prop where
  | same : Met env r r
  | quiet (quiet : Quiet r after) : Met env r after
  | received (slot : r.slot = some reply) : Met env r (r.receive env reply)
  | asked (phase : r.phase = .acking reply) :
      Met env r { r with phase := .confirming reply }
  | confirmed (phase : r.phase = .confirming reply) :
      Met env r (r.close (parseReply env r.call reply.body))

section Requests
variable {r : Request}

theorem failed_met (error : BrokerError) : Met env r (r.close (.error error)) :=
  .quiet ⟨rfl, rfl, by simp [Request.close], by simp [Request.close], by simp [Request.close]⟩

theorem rejected_met (reason : String) : Met env r (r.reject reason) :=
  .quiet ⟨rfl, rfl, by simp [Request.reject], by simp [Request.reject], by simp [Request.reject]⟩

theorem moved_met (empty : ∀ message, phase ≠ .acking message ∧ phase ≠ .confirming message)
    (open_ : phase ≠ .ended) : Met env r { r with phase := phase } :=
  .quiet ⟨rfl, rfl, empty, fun _ same => same, open_⟩

theorem timedOut_met : Met env r r.timedOut := by
  refine .quiet ⟨rfl, rfl, ?_, ?_, ?_⟩ <;> simp only [Request.timedOut]
  · split <;> simp
  · simp
  · split <;> simp

theorem meet_cases (hung : Bool) (event : Event) : Met env r (r.meet env hung event).1 := by
  unfold Request.meet
  split
  · exact moved_met (by simp) (by simp)
  · exact failed_met _
  · exact moved_met (by simp) (by simp)
  · exact rejected_met _
  · exact failed_met _
  · split
    · rename_i reply held
      exact .received held
    · exact .same
  · split
    · exact failed_met _
    · exact .same
  · rename_i reply phase
    exact .asked phase
  · exact failed_met _
  · rename_i reply phase
    exact .confirmed phase
  · exact rejected_met _
  · exact failed_met _
  · exact .quiet ⟨rfl, rfl, by simp, fun _ same => same, by simp⟩
  · exact .quiet ⟨rfl, rfl, by simp, by simp, by simp⟩
  · split
    · exact timedOut_met
    · exact .same
  · split
    · exact moved_met (by simp) (by simp)
    · exact .same
  · exact .same

theorem receive_call (reply : InboxMessage) : (r.receive env reply).call = r.call := by
  unfold Request.receive
  dsimp only
  split <;> rfl

theorem met_call (met : Met env r after) : after.call = r.call := by
  cases met with
  | same => rfl
  | quiet quiet => exact quiet.call
  | received slot => exact receive_call _
  | asked phase => rfl
  | confirmed phase => rfl

theorem met_open (met : Met env r after) (ended : after.phase = .ended) : r.phase = .ended := by
  cases met with
  | same => exact ended
  | quiet quiet => exact absurd ended quiet.open_
  | received slot =>
    unfold Request.receive Request.close at ended
    dsimp only at ended
    split at ended <;> cases ended
  | asked phase => cases ended
  | confirmed phase => cases ended

section
variable (backed : Backed env completed place r)
include backed

theorem quiet_backed (quiet : Quiet r after) : Backed env completed place after where
  slot := by
    rw [quiet.slot]
    exact backed.slot
  read := by
    rintro message (reading | reading)
    · exact absurd reading (quiet.empty message).1
    · exact absurd reading (quiet.empty message).2
  returned := by
    rw [quiet.call]
    exact fun text answered => backed.returned text (quiet.outcome text answered)

theorem receive_backed (held : r.slot = some reply) :
    Backed env completed place (r.receive env reply) := by
  have own := backed.slot reply held
  unfold Request.receive Request.close
  dsimp only
  split
  · refine ⟨backed.slot, ?_, backed.returned⟩
    rintro message (reading | reading)
    · cases reading
      exact own
    · cases reading
  · refine ⟨backed.slot, ?_, ?_⟩
    · rintro message (reading | reading) <;> cases reading
    · intro text answered
      cases answered

theorem met_backed (met : Met env r after) : Backed env completed place after := by
  cases met with
  | same => exact backed
  | quiet quiet => exact quiet_backed backed quiet
  | received slot => exact receive_backed backed slot
  | @asked reply phase =>
    refine ⟨backed.slot, ?_, backed.returned⟩
    rintro message (reading | reading)
    · cases reading
    · cases reading
      exact backed.read reply (.inl phase)
  | @confirmed reply phase =>
    refine ⟨backed.slot, ?_, ?_⟩
    · rintro message (reading | reading) <;> cases reading
    · intro text answered
      exact ⟨reply, backed.read reply (.inr phase), Option.some.inj answered⟩

end

end Requests

/- The driver. -/

section Drivers
variable {d : Driver}

theorem calls_set (there : d.requests[place]? = some r) (same : after.call = r.call) :
    (d.requests.set place after).map Request.call = d.calls := by
  unfold Driver.calls
  apply ext_getElem?
  intro other
  rw [List.getElem?_map, List.getElem?_map, List.getElem?_set]
  split
  · rename_i here
    subst here
    rw [if_pos (List.getElem?_eq_some_iff.1 there).1, there]
    exact congrArg some same
  · rfl

theorem call_of_request {place : Nat} (there : d.requests[place]? = some r) :
    d.calls[place]? = some r.call := by
  unfold Driver.calls
  rw [List.getElem?_map, there]
  rfl

theorem request_of_call {place : Nat} (there : d.calls[place]? = some call) :
    ∃ r, d.requests[place]? = some r ∧ r.call = call := by
  unfold Driver.calls at there
  rw [List.getElem?_map] at there
  exact Option.map_eq_some_iff.1 there

theorem sound_set (sound : Sound env d) (there : d.requests[place]? = some r)
    (met : Met env r after) (frames : List ClientFrame) :
    Sound env { d with requests := d.requests.set place after, frames := frames } := by
  have calls : Driver.calls { d with requests := d.requests.set place after, frames := frames } =
      d.calls := calls_set there (met_call met)
  constructor
  · rw [calls]
    exact sound.registered
  · rw [calls]
    exact sound.forwarded
  · intro other q found
    rcases set_cases found with ⟨rfl, rfl⟩ | ⟨_, found⟩
    · exact met_backed (sound.backed _ r there) met
    · exact sound.backed other q found
  · intro q member ended
    rcases mem_or_eq_of_mem_set member with old | rfl
    · exact sound.closed q old ended
    · rw [met_call met]
      exact sound.closed r (mem_of_getElem? there) (met_open met ended)
  · exact sound.retired

theorem sound_request (distinct : Function.Injective env.mint) (sound : Sound env d) (typed : Bool)
    (kind answer : InboxKind) (target body timeout : String) :
    Sound env (requestValidated env d typed kind answer target body timeout) := by
  let call := newCall env d.requests.length typed kind answer target body timeout
  have calls : (requestValidated env d typed kind answer target body timeout).calls =
      d.calls ++ [call] := by
    simp [Driver.calls, requestValidated, Call.started, call]
  have length : d.calls.length = d.requests.length := length_map ..
  have minted : call.id = requestNamespace call.kind ++ env.mint d.calls.length := by
    rw [length]
    rfl
  have grown : ∀ {place : Nat} {old : Call}, d.calls[place]? = some old →
      (d.calls ++ [call])[place]? = some old := by
    intro place old there
    rw [List.getElem?_append_left (List.getElem?_eq_some_iff.1 there).1]
    exact there
  constructor
  · rw [calls]
    have table := registered_insert distinct sound.registered minted
    rw [length] at table
    exact table
  · rw [calls]
    constructor
    · intro waiter message sending
      obtain ⟨old, there, answers⟩ := sound.forwarded.taken waiter message sending
      exact ⟨old, grown there, answers⟩
    · intro place message member
      obtain ⟨old, there, answers⟩ := sound.forwarded.filled place message member
      exact ⟨old, grown there, answers⟩
  · intro place r found
    change (d.requests ++ [call.started])[place]? = some r at found
    rw [List.getElem?_append] at found
    split at found
    · exact sound.backed place r found
    · obtain ⟨last, rfl⟩ := List.getElem?_eq_some_iff.1 found
      rw [getElem_singleton]
      constructor
      · intro message held
        cases held
      · rintro message (reading | reading) <;> cases reading
      · intro text answered
        cases answered
  · intro r member ended
    rcases mem_append.1 member with old | new
    · have fresh := next_fresh distinct sound.registered minted r.call
        (mem_map.2 ⟨r, old, rfl⟩)
      have gone := sound.closed r old ended
      change (d.pending.insert call.id _).contains r.call.id = false
      rw [SortedMap.contains, lookup_insert_other _ _ fresh]
      exact gone
    · cases mem_singleton.1 new
      cases ended
  · exact sound.retired

theorem sound_finish (sound : Sound env d) (there : d.requests[place]? = some r) :
    Sound env (dropGuard d place r) := by
  have calls : (dropGuard d place r).calls = d.calls := calls_set there rfl
  have backed := sound.backed place r there
  constructor
  · rw [calls]
    unfold dropGuard
    dsimp only
    split
    · exact registered_erase sound.registered ‹_›
    · rename_i absent
      have same : d.pending.erase r.call.id = d.pending := by
        apply ext_lookup
        intro id
        rw [lookup_erase]
        split
        · rename_i here
          rw [here, contains_false.1 (eq_false_of_ne_true absent)]
        · rfl
      rw [same]
      exact sound.registered
  · rw [calls]
    exact sound.forwarded
  · intro other q found
    rcases set_cases found with ⟨rfl, rfl⟩ | ⟨_, found⟩
    · refine ⟨backed.slot, ?_, backed.returned⟩
      rintro message (reading | reading) <;> cases reading
    · exact sound.backed other q found
  · intro q member ended
    change (d.pending.erase r.call.id).contains q.call.id = false
    rw [contains_false, lookup_erase]
    split
    · rfl
    · rename_i other
      rcases mem_or_eq_of_mem_set member with old | rfl
      · exact contains_false.1 (sound.closed q old ended)
      · exact absurd rfl other
  · exact sound.retired

theorem fits_answers (fitting : fits waiter message = true)
    (correlation : message.correlationId = some call.id) (target : call.target = waiter.target)
    (kind : call.replyKind = waiter.kind) : Answers call message := by
  simp only [fits, and_eq_true, decide_eq_true_eq] at fitting
  exact ⟨correlation, fitting.1.symm.trans kind.symm, fitting.2.symm.trans target.symm⟩

section
variable (sound : Sound env d)
include sound

theorem sound_router (idle : ∀ waiter message, router ≠ .sending waiter message) :
    Sound env { d with router := router } where
  registered := sound.registered
  forwarded := ⟨fun waiter message sending => absurd sending (idle waiter message),
    sound.forwarded.filled⟩
  backed := sound.backed
  closed := sound.closed
  retired := sound.retired

theorem sound_route (message : InboxMessage) : Sound env (route d message) := by
  unfold route
  split
  · exact sound_router sound (fun _ _ impossible => nomatch impossible)
  · rename_i correlation named
    split
    · exact sound_router sound (fun _ _ impossible => nomatch impossible)
    · rename_i waiter held
      split
      · rename_i fitting
        obtain ⟨call, found, id, target, kind⟩ := sound.registered.entered correlation waiter held
        have answers : Answers call message :=
          fits_answers fitting (by rw [named, id]) target kind
        constructor
        · exact registered_erase sound.registered (contains_iff.2 ⟨waiter, held⟩)
        · refine ⟨?_, sound.forwarded.filled⟩
          intro other taken sending
          cases sending
          exact ⟨call, found, answers⟩
        · exact sound.backed
        · intro r member ended
          have gone := contains_false.1 (sound.closed r member ended)
          rw [contains_false, lookup_erase, gone, ite_self]
        · exact sound.retired
      · exact sound

theorem sound_forward (sending : d.router = .sending waiter message) :
    Sound env (forward d waiter message) := by
  obtain ⟨call, found, answers⟩ := sound.forwarded.taken waiter message sending
  unfold forward
  split
  · exact sound_router sound (fun _ _ impossible => nomatch impossible)
  · rename_i r there
    split
    · have calls : (d.requests.set waiter.sender { r with slot := some message }).map Request.call =
          d.calls := calls_set there rfl
      constructor
      · unfold Driver.calls
        rw [calls]
        exact sound.registered
      · unfold Driver.calls
        rw [calls]
        refine ⟨fun _ _ impossible => (nomatch impossible), ?_⟩
        intro place other member
        rcases mem_append.1 member with before | now_
        · exact sound.forwarded.filled place other before
        · cases mem_singleton.1 now_
          exact ⟨call, found, answers⟩
      · intro place q held
        rcases set_cases held with ⟨rfl, rfl⟩ | ⟨_, held⟩
        · have backed := backed_mono (sound.backed _ r there) [(waiter.sender, message)]
          refine ⟨?_, backed.read, backed.returned⟩
          intro other taken
          cases taken
          exact mem_append_right _ mem_cons_self
        · exact backed_mono (sound.backed place q held) _
      · intro q member ended
        rcases mem_or_eq_of_mem_set member with old | rfl
        · exact sound.closed q old ended
        · exact sound.closed r (mem_of_getElem? there) ended
      · exact sound.retired
    · exact sound_router sound (fun _ _ impossible => nomatch impossible)

theorem sound_retire (message : InboxMessage) : Sound env (retireOrphanReply env d message) := by
  unfold retireOrphanReply
  split
  · rename_i owned
    refine ⟨sound.registered, ⟨fun _ _ impossible => (nomatch impossible), sound.forwarded.filled⟩,
      sound.backed, sound.closed, ?_⟩
    intro other member
    rcases mem_append.1 member with before | now_
    · exact sound.retired other before
    · rw [mem_singleton.1 now_]
      exact ownedReply_owned owned
  · exact sound_router sound (fun _ _ impossible => nomatch impossible)

theorem sound_lost : Sound env (lost d) where
  registered := registered_clear sound.registered
  forwarded := ⟨fun _ _ impossible => (nomatch impossible), sound.forwarded.filled⟩
  backed := sound.backed
  closed := fun _ _ _ => rfl
  retired := sound.retired

end

theorem sound_step (distinct : Function.Injective env.mint) (sound : Sound env d) (act : Act) :
    Sound env (step env d act) := by
  cases act with
  | request typed kind target body timeout =>
    simp only [step]
    split
    · exact sound_request distinct sound ..
    · exact sound
  | own place event =>
    simp only [step]
    split
    · rename_i r there
      exact sound_set sound there (meet_cases _ _) _
    · exact sound
  | finish place =>
    simp only [step]
    split
    · rename_i r there
      split
      · exact sound_finish sound there
      · exact sound
    · exact sound
  | route message =>
    simp only [step]
    split
    · exact sound_route sound message
    · exact sound
    · exact sound
    · exact sound
  | forward =>
    simp only [step]
    split
    · exact sound_forward sound ‹_›
    · exact sound
    · exact sound
    · exact sound
  | retire =>
    simp only [step]
    split
    · exact sound_retire sound _
    · exact sound
    · exact sound
    · exact sound
  | lost =>
    simp only [step]
    split
    · exact sound_lost sound
    · exact sound
    · exact sound
    · exact sound
  | abort =>
    simp only [step]
    split
    · exact sound_router sound (fun _ _ impossible => nomatch impossible)
    · exact sound_router sound (fun _ _ impossible => nomatch impossible)
    · exact sound
    · exact sound

/- The waiters. -/

/-- How this waiter can leave the table. -/
inductive Leaves (d : Driver) (id : String) (waiter : ReplyWaiter) : Act → Prop where
  | finished (own : d.requests[waiter.sender]? = some r) (same : r.call.id = id) :
      Leaves d id waiter (.finish waiter.sender)
  | answered (correlation : message.correlationId = some id)
      (fitting : fits waiter message = true) : Leaves d id waiter (.route message)
  | lost : Leaves d id waiter .lost

theorem route_leaves {id : String} (held : d.pending.lookup id = some waiter)
    (message : InboxMessage) :
    (route d message).pending.lookup id = some waiter ∨ Leaves d id waiter (.route message) := by
  unfold route
  split
  · exact .inl held
  · rename_i correlation named
    split
    · exact .inl held
    · rename_i other found
      split
      · rename_i fitting
        by_cases same : id = correlation
        · subst same
          rw [held] at found
          cases found
          exact .inr (.answered named fitting)
        · exact .inl (by rw [lookup_erase_other _ same]; exact held)
      · exact .inl held

theorem step_leaves (distinct : Function.Injective env.mint) (sound : Sound env d) {id : String}
    (held : d.pending.lookup id = some waiter) (act : Act) :
    (step env d act).pending.lookup id = some waiter ∨ Leaves d id waiter act := by
  obtain ⟨call, found, same, _⟩ := sound.registered.entered id waiter held
  cases act with
  | request typed kind target body timeout =>
    simp only [step]
    split
    · rename_i answer _
      have minted : (newCall env d.requests.length typed kind answer target body timeout).id =
          requestNamespace kind ++ env.mint d.calls.length := by
        rw [show d.calls.length = d.requests.length from length_map ..]
        rfl
      have fresh := next_fresh distinct sound.registered minted call (mem_of_getElem? found)
      rw [same] at fresh
      exact .inl ((lookup_insert_other _ _ fresh).trans held)
    · exact .inl held
  | own place event =>
    simp only [step]
    split <;> exact .inl held
  | finish place =>
    simp only [step]
    split
    · rename_i r there
      split
      · by_cases here : id = r.call.id
        · have equal : waiter.sender = place :=
            calls_unique distinct sound.registered found (call_of_request there) (same.trans here)
          rw [← equal] at there ⊢
          exact .inr (.finished there here.symm)
        · exact .inl ((lookup_erase_other _ here).trans held)
      · exact .inl held
    · exact .inl held
  | route message =>
    simp only [step]
    split
    · exact route_leaves held message
    · exact .inl held
    · exact .inl held
    · exact .inl held
  | forward =>
    simp only [step]
    split
    · unfold forward
      split
      · exact .inl held
      · split <;> exact .inl held
    · exact .inl held
    · exact .inl held
    · exact .inl held
  | retire =>
    simp only [step]
    split
    · unfold retireOrphanReply
      split <;> exact .inl held
    · exact .inl held
    · exact .inl held
    · exact .inl held
  | lost => exact .inr .lost
  | abort =>
    simp only [step]
    split <;> exact .inl held

theorem route_mismatched
    (mismatched : ∀ correlation waiter, message.correlationId = some correlation →
      d.pending.lookup correlation = some waiter → fits waiter message = false) :
    (step env d (.route message)).pending = d.pending := by
  simp only [step]
  split
  · unfold route
    split
    · rfl
    · rename_i correlation named
      split
      · rfl
      · rename_i waiter held
        rw [mismatched correlation waiter named held]
        rfl
  · rfl
  · rfl
  · rfl

end Drivers

/-- What holds between any two steps of a driver. -/
structure OwnReplies (env : Env) (d : Driver) : Prop where
  completed : ∀ place message, (place, message) ∈ d.completed →
    ∃ r, d.requests[place]? = some r ∧ Answers r.call message
  returned : ∀ place r text, d.requests[place]? = some r → r.outcome = some (.ok text) →
    ∃ message, (place, message) ∈ d.completed ∧ parseReply env r.call message.body = .ok text
  mismatched : ∀ message, (∀ correlation waiter, message.correlationId = some correlation →
      d.pending.lookup correlation = some waiter → fits waiter message = false) →
    (step env d (.route message)).pending = d.pending
  leaves : ∀ act id waiter, d.pending.lookup id = some waiter →
    (step env d act).pending.lookup id = some waiter ∨ Leaves d id waiter act
  once : ∀ r ∈ d.requests,
    d.removed.count r.call.id = if d.pending.contains r.call.id then 0 else 1
  closed : ∀ r ∈ d.requests, r.phase = .ended → d.removed.count r.call.id = 1
  retired : ∀ message ∈ d.retired, ∃ correlation, message.correlationId = some correlation ∧
    Owned env message.kind correlation

theorem sound_start (env : Env) : Sound env .start where
  registered := by
    constructor
    · intro place call found
      cases found
    · intro id waiter held
      cases held
    · intro id member
      cases member
    · intro call member
      cases member
  forwarded := ⟨fun _ _ impossible => (nomatch impossible), fun _ _ member => (nomatch member)⟩
  backed := fun _ _ found => nomatch found
  closed := fun _ member => nomatch member
  retired := fun _ member => nomatch member

theorem sound_run (distinct : Function.Injective env.mint) (acts : List Act) :
    Sound env (run (step env) .start acts) := by
  have keeps : ∀ (d : Driver) (act : Act), True → Sound env d → Sound env (step env d act) :=
    fun d act _ sound => sound_step distinct sound act
  exact along_keeps keeps acts (along_of_forall (fun _ _ _ => trivial)) (sound_start env)

theorem own_of_sound (distinct : Function.Injective env.mint) (sound : Sound env d) :
    OwnReplies env d := by
  have once : ∀ r ∈ d.requests,
      d.removed.count r.call.id = if d.pending.contains r.call.id then 0 else 1 := by
    intro r member
    have counted := sound.registered.accounted r.call (mem_map.2 ⟨r, member, rfl⟩)
    cases held : d.pending.contains r.call.id with
    | true =>
      rw [held, toNat_true] at counted
      rw [if_pos rfl]
      omega
    | false =>
      rw [held, toNat_false] at counted
      rw [if_neg Bool.false_ne_true]
      omega
  constructor
  · intro place message member
    obtain ⟨call, found, answers⟩ := sound.forwarded.filled place message member
    obtain ⟨r, there, rfl⟩ := request_of_call found
    exact ⟨r, there, answers⟩
  · intro place r text there answered
    exact (sound.backed place r there).returned text answered
  · exact fun message mismatched => route_mismatched mismatched
  · exact fun act id waiter held => step_leaves distinct sound held act
  · exact once
  · intro r member ended
    rw [once r member, sound.closed r member ended, if_neg Bool.false_ne_true]
  · exact sound.retired

theorem requests_get_own_replies (env : Env) (distinct : Function.Injective env.mint)
    (acts : List Act) : OwnReplies env (run (step env) .start acts) :=
  own_of_sound distinct (sound_run distinct acts)

def sampleEnv : Env where
  mint := fun place => String.ofList (List.replicate place 'a')
  parseUuid := fun _ => true
  replyBody := fun body => .ok body
  mcpReply := fun _ => .ok ()

theorem sampleEnv_distinct : Function.Injective sampleEnv.mint := by
  intro a b same
  have chars := congrArg (fun text => text.toList.length) same
  simpa [sampleEnv] using chars

def sampleReply (sender id correlation : String) : InboxMessage :=
  { id := id, sender := sender, kind := .mcpReply, body := "done",
    correlationId := some correlation }

/-- A forged reply, the reply of the first request, and a reply to the second after it was
    dropped. -/
def sampleActs : List Act :=
  [.request false .mcpRequest "peer" "first" "1s", .request false .mcpRequest "peer" "second" "1s",
    .own 0 .sent, .own 1 .sent, .own 0 .receipt, .route (sampleReply "other" "m1" "broker-mcp-"),
    .own 1 .dropped, .finish 1, .route (sampleReply "peer" "m2" "broker-mcp-"), .forward,
    .route (sampleReply "peer" "m3" "broker-mcp-a"), .retire, .own 0 .replied, .own 0 .ackSent,
    .own 0 .ackConfirmed, .finish 0]

theorem sample_own_replies :
    (run (step sampleEnv) .start sampleActs).completed =
        [(0, sampleReply "peer" "m2" "broker-mcp-")] ∧
      (run (step sampleEnv) .start sampleActs).removed = ["broker-mcp-a", "broker-mcp-"] ∧
      (run (step sampleEnv) .start sampleActs).retired =
        [sampleReply "peer" "m3" "broker-mcp-a"] ∧
      OwnReplies sampleEnv (run (step sampleEnv) .start sampleActs) := by
  refine ⟨by decide +kernel, by decide +kernel, by decide +kernel, ?_⟩
  exact requests_get_own_replies sampleEnv sampleEnv_distinct sampleActs

end Brokers.Multiplexing
