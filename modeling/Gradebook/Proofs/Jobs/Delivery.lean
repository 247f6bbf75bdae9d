import Gradebook.Proofs.Jobs.Runs

/-! One feed among its readers. Readers come at any time, each asks for one delivery after the other, and a reader
who finds nothing waits until a push wakes the reader or the heartbeat is over. Nothing orders the turns of the
writer and the readers. Whatever their order, what the readers were told and what still waits make up what was
pushed, no status is told twice but the last, and every reader who goes on asking is told that one once. -/

namespace Gradebook.Jobs

/-- A reader of the feed, and whether the reader looked, found nothing and has not been answered yet. -/
structure Listener where
  reader : Reader
  waits : Bool := false
  deriving DecidableEq

structure Audience where
  feed : Feed := {}
  listeners : List Listener := []
  deriving DecidableEq

/-- A turn of the writer or of the reader at a place, with what the reader was given. A look that found nothing
gave nothing yet. -/
inductive Turn where
  | push (status : Status)
  | join (job : JobId)
  | look (place : Nat) (delivery : Option Delivery)
  | wake (place : Nat) (delivery : Delivery)
  | expire (place : Nat)
  deriving DecidableEq

/-- What each turn does. A wake may come for nothing: another reader may have taken what was pushed. -/
inductive Hears (a : Audience) : Turn → Audience → Prop where
  | push (status : Status) : Hears a (.push status) { a with feed := a.feed.push status }
  | join (job : JobId) : Hears a (.join job) { a with listeners := a.listeners ++ [⟨{ job }, false⟩] }
  | look {place l delivery reader feed} (here : a.listeners[place]? = some l) (idle : l.waits = false)
      (looks : l.reader.poll a.feed = (delivery, reader, feed)) :
      Hears a (.look place delivery) ⟨feed, a.listeners.set place ⟨reader, delivery.isNone⟩⟩
  | wake {place l delivery reader feed} (here : a.listeners[place]? = some l) (waits : l.waits = true)
      (looks : l.reader.pollAwake a.feed = (delivery, reader, feed)) :
      Hears a (.wake place delivery) ⟨feed, a.listeners.set place ⟨reader, false⟩⟩
  | expire {place l} (here : a.listeners[place]? = some l) (waits : l.waits = true) :
      Hears a (.expire place) { a with listeners := a.listeners.set place ⟨l.reader, false⟩ }

/-- Some turns in a row, oldest first. -/
inductive Hearing (a : Audience) : List Turn → Audience → Prop where
  | none : Hearing a [] a
  | next {turns b turn c} (before : Hearing a turns b) (step : Hears b turn c) : Hearing a (turns ++ [turn]) c

def Delivery.status? : Delivery → Option Status
  | .status s => some s
  | .keepAlive => none
  | .ended => none

/-- Whether the reader may expect more statuses after the delivery. -/
def Delivery.isOpen : Delivery → Bool
  | .status s => !s.isTerminal
  | .keepAlive => true
  | .ended => false

def Turn.pushed? : Turn → Option Status
  | .push status => some status
  | _ => none

/-- Who was given what in the turn. -/
def Turn.given? : Turn → Option (Nat × Delivery)
  | .push _ => none
  | .join _ => none
  | .look place delivery => delivery.map (place, ·)
  | .wake place delivery => some (place, delivery)
  | .expire place => some (place, .keepAlive)

/-- The statuses up to the first terminal one, that one included. -/
def untilTerminal : List Status → List Status
  | [] => []
  | status :: rest => if status.isTerminal then [status] else status :: untilTerminal rest

/-- What the feed accepted, oldest first: what was pushed until the end was. -/
def acceptedIn (turns : List Turn) : List Status := untilTerminal (turns.filterMap Turn.pushed?)

/-- The statuses that the readers were told, in the order in which that happened. -/
def toldIn (turns : List Turn) : List Status :=
  turns.filterMap fun turn => turn.given?.bind fun given => given.2.status?

/-- What the reader at a place was given, oldest first. -/
def givenTo (place : Nat) (turns : List Turn) : List Delivery :=
  turns.filterMap fun turn => turn.given?.bind fun given => if given.1 = place then some given.2 else none

variable {a b c : Audience} {turn : Turn} {turns more : List Turn} {place : Nat}

/-! ### What a turn does -/

/-- What becomes of a look at a feed. -/
inductive Reader.Looks (reader : Reader) (feed : Feed) : Option Delivery → Reader → Feed → Prop where
  | ended (finished : reader.finished = true) : Looks reader feed (some .ended) reader feed
  | oldest {status rest} (unfinished : reader.finished = false) (waiting : feed.pending = status :: rest) :
      Looks reader feed (some (.status status)) { reader with finished := status.isTerminal }
        { feed with pending := rest }
  | last {status} (unfinished : reader.finished = false) (nothing : feed.pending = [])
      (terminal : feed.terminal = some status) :
      Looks reader feed (some (.status status)) { reader with finished := status.isTerminal } feed
  | nothing (unfinished : reader.finished = false) (nothing : feed.pending = []) (isOpen : feed.terminal = none) :
      Looks reader feed none reader feed

theorem Reader.looks_poll (reader : Reader) (feed : Feed) :
    Looks reader feed (reader.poll feed).1 (reader.poll feed).2.1 (reader.poll feed).2.2 := by
  unfold Reader.poll
  split
  · next finished => exact .ended finished
  · next unfinished =>
    rw [Bool.not_eq_true] at unfinished
    unfold Feed.take
    cases waiting : feed.pending with
    | cons status rest => exact .oldest unfinished waiting
    | nil =>
        cases terminal : feed.terminal with
        | none => exact .nothing unfinished waiting terminal
        | some status => exact .last unfinished waiting terminal

/-- What a turn gives and to whom, and what it makes of the feed and of that reader. -/
inductive Audience.Effect (a : Audience) : Option Status → Option (Nat × Delivery) → Audience → Prop where
  | pushes (status : Status) : Effect a (some status) none { a with feed := a.feed.push status }
  | joins (job : JobId) : Effect a none none { a with listeners := a.listeners ++ [⟨{ job }, false⟩] }
  | tells {place l status reader feed} (here : a.listeners[place]? = some l)
      (looks : l.reader.Looks a.feed (some (.status status)) reader feed) :
      Effect a none (some (place, .status status)) ⟨feed, a.listeners.set place ⟨reader, false⟩⟩
  | ends {place l} (here : a.listeners[place]? = some l) (finished : l.reader.finished = true) :
      Effect a none (some (place, .ended)) { a with listeners := a.listeners.set place ⟨l.reader, false⟩ }
  | waits {place l} (here : a.listeners[place]? = some l) (unfinished : l.reader.finished = false)
      (isOpen : a.feed.terminal = none) :
      Effect a none none { a with listeners := a.listeners.set place ⟨l.reader, true⟩ }
  | calms {place l} (here : a.listeners[place]? = some l) (waits : l.waits = true) :
      Effect a none (some (place, .keepAlive)) { a with listeners := a.listeners.set place ⟨l.reader, false⟩ }

theorem Hears.effect (step : Hears a turn b) : a.Effect turn.pushed? turn.given? b := by
  cases step with
  | push status => exact .pushes status
  | join job => exact .joins job
  | @look place l delivery reader feed here idle looks =>
      have looked := l.reader.looks_poll a.feed
      rw [looks] at looked
      cases looked with
      | ended finished => exact .ends here finished
      | oldest unfinished waiting => exact .tells here (.oldest unfinished waiting)
      | last unfinished nothing terminal => exact .tells here (.last unfinished nothing terminal)
      | nothing unfinished nothing isOpen => exact .waits here unfinished isOpen
  | @wake place l delivery reader feed here waits looks =>
      have looked := l.reader.looks_poll a.feed
      unfold Reader.pollAwake at looks
      rcases polls : l.reader.poll a.feed with ⟨found, reader', feed'⟩
      rw [polls] at looks looked
      cases looked with
      | ended finished =>
          cases looks
          exact .ends here finished
      | oldest unfinished waiting =>
          cases looks
          exact .tells here (.oldest unfinished waiting)
      | last unfinished nothing terminal =>
          cases looks
          exact .tells here (.last unfinished nothing terminal)
      | nothing unfinished nothing isOpen =>
          cases looks
          exact .calms here waits
  | expire here waits => exact .calms here waits

/-! ### Turns one after another -/

theorem untilTerminal_append (statuses : List Status) (status : Status) :
    untilTerminal (statuses ++ [status]) = untilTerminal statuses ++
      if ((untilTerminal statuses).find? Status.isTerminal).isSome then [] else [status] := by
  induction statuses with
  | nil => simp [untilTerminal]
  | cons first rest ih =>
      rw [List.cons_append]
      unfold untilTerminal
      split
      · next isTerminal => simp [isTerminal]
      · next isOpen => rw [ih, List.cons_append, List.find?_cons_of_neg isOpen]

theorem filter_untilTerminal (statuses : List Status) :
    (untilTerminal statuses).filter (fun status => !status.isTerminal) <+: untilTerminal statuses := by
  induction statuses with
  | nil => exact List.prefix_rfl
  | cons first rest ih =>
      unfold untilTerminal
      split
      · next isTerminal => simp [isTerminal]
      · next isOpen =>
        rw [List.filter_cons_of_pos (by simpa using isOpen)]
        exact (List.cons_prefix_cons).mpr ⟨rfl, ih⟩

theorem find?_untilTerminal {statuses : List Status} {status : Status} (hmem : status ∈ untilTerminal statuses)
    (isTerminal : status.isTerminal = true) : (untilTerminal statuses).find? Status.isTerminal = some status := by
  induction statuses with
  | nil => cases hmem
  | cons first rest ih =>
      unfold untilTerminal at hmem ⊢
      split at hmem
      · next last =>
        rw [List.mem_singleton] at hmem
        simp [hmem, last]
      · next isOpen =>
        rw [if_neg isOpen, List.find?_cons_of_neg isOpen]
        rcases List.mem_cons.mp hmem with rfl | hmem
        · exact absurd isTerminal isOpen
        · exact ih hmem

theorem acceptedIn_append (turns : List Turn) (turn : Turn) :
    acceptedIn (turns ++ [turn]) = acceptedIn turns ++ match turn.pushed? with
      | some status => if ((acceptedIn turns).find? Status.isTerminal).isSome then [] else [status]
      | none => [] := by
  unfold acceptedIn
  rw [List.filterMap_append]
  cases h : turn.pushed? with
  | none => simp [h]
  | some status =>
      rw [List.filterMap_cons_some h, List.filterMap_nil]
      exact untilTerminal_append _ status

theorem toldIn_append (turns : List Turn) (turn : Turn) :
    toldIn (turns ++ [turn]) = toldIn turns ++ (turn.given?.bind fun given => given.2.status?).toList := by
  unfold toldIn
  rw [List.filterMap_append]
  cases h : turn.given?.bind fun given => given.2.status? <;> simp [h]

theorem givenTo_append (place : Nat) (turns more : List Turn) :
    givenTo place (turns ++ more) = givenTo place turns ++ givenTo place more :=
  List.filterMap_append

theorem givenTo_single (place : Nat) (turn : Turn) :
    givenTo place [turn] = match turn.given? with
      | some given => if given.1 = place then [given.2] else []
      | none => [] := by
  unfold givenTo
  cases h : turn.given? with
  | none => simp [h]
  | some given => by_cases here : given.1 = place <;> simp [h, here]

/-! ### The invariant -/

/-- What a place has been given: nothing before a reader comes, then nothing that ends it, and to a reader who
finished the end of the feed, once, and after that only that it is over. -/
inductive Served (terminal : Option Status) : Option Listener → List Delivery → Prop where
  | absent : Served terminal none []
  | listening {l given} (unfinished : l.reader.finished = false)
      (isOpen : ∀ delivery ∈ given, Delivery.isOpen delivery = true) : Served terminal (some l) given
  | finished {l heard status} (n : Nat) (finished : l.reader.finished = true) (idle : l.waits = false)
      (told : terminal = some status) (isOpen : ∀ delivery ∈ heard, Delivery.isOpen delivery = true) :
      Served terminal (some l) (heard ++ .status status :: List.replicate n .ended)

/-- What was told and what still waits make up what was accepted, the end apart, and every place was served. -/
structure Attended (turns : List Turn) (a : Audience) : Prop where
  records : a.feed.Records (acceptedIn turns)
  conserved : (toldIn turns).filter (fun status => !status.isTerminal) ++
    a.feed.pending.filter (fun status => !status.isTerminal) =
      (acceptedIn turns).filter fun status => !status.isTerminal
  served : ∀ place, Served a.feed.terminal a.listeners[place]? (givenTo place turns)

theorem Served.mono {terminal later : Option Status} {l : Option Listener} {given : List Delivery}
    (h : Served terminal l given) (stays : ∀ status, terminal = some status → later = some status) :
    Served later l given := by
  cases h with
  | absent => exact .absent
  | listening unfinished isOpen => exact .listening unfinished isOpen
  | finished n finished idle told isOpen => exact .finished n finished idle (stays _ told) isOpen

theorem Served.eq_nil {terminal : Option Status} {given : List Delivery} (h : Served terminal none given) :
    given = [] := by
  cases h
  rfl

theorem Attended.served_at {l : Listener} (h : Attended turns a) (here : a.listeners[place]? = some l) :
    Served a.feed.terminal (some l) (givenTo place turns) := here ▸ h.served place

/-- Whoever is served while not finished has been given nothing that ends it. -/
theorem Served.isOpen {terminal : Option Status} {l : Listener} {given : List Delivery}
    (h : Served terminal (some l) given) (unfinished : l.reader.finished = false) :
    ∀ delivery ∈ given, delivery.isOpen = true := by
  cases h with
  | listening _ isOpen => exact isOpen
  | finished _ finished =>
      rw [finished] at unfinished
      cases unfinished

theorem Feed.Records.isTerminal {feed : Feed} {accepted : List Status} (h : feed.Records accepted)
    {status : Status} (terminal : feed.terminal = some status) : status.isTerminal = true :=
  List.find?_some (h.terminal.symm.trans terminal)

/-- After one more delivery a reader listens on, unless it was the end. -/
theorem Served.tells {terminal : Option Status} {l : Listener} {given : List Delivery} {status : Status}
    (h : Served terminal (some l) given) (unfinished : l.reader.finished = false)
    (told : status.isTerminal = true → terminal = some status) :
    Served terminal (some ⟨{ l.reader with finished := status.isTerminal }, false⟩)
      (given ++ [.status status]) := by
  have isOpen := h.isOpen unfinished
  cases isTerminal : status.isTerminal with
  | false =>
      refine .listening rfl ?_
      intro delivery hmem
      rcases List.mem_append.mp hmem with hmem | hmem
      · exact isOpen delivery hmem
      · rw [List.mem_singleton.mp hmem]
        simp [Delivery.isOpen, isTerminal]
  | true => exact .finished 0 rfl rfl (told isTerminal) isOpen

theorem Served.calms {terminal : Option Status} {l : Listener} {given : List Delivery}
    (h : Served terminal (some l) given) (waits : l.waits = true) :
    Served terminal (some ⟨l.reader, false⟩) (given ++ [.keepAlive]) := by
  cases h with
  | listening unfinished isOpen =>
      refine .listening unfinished ?_
      intro delivery hmem
      rcases List.mem_append.mp hmem with hmem | hmem
      · exact isOpen delivery hmem
      · rw [List.mem_singleton.mp hmem]
        rfl
  | finished n finished idle =>
      rw [waits] at idle
      cases idle

theorem Served.ends {terminal : Option Status} {l : Listener} {given : List Delivery}
    (h : Served terminal (some l) given) (finished : l.reader.finished = true) :
    Served terminal (some ⟨l.reader, false⟩) (given ++ [.ended]) := by
  cases h with
  | listening unfinished isOpen =>
      rw [unfinished] at finished
      cases finished
  | @finished _ heard status n _ _ told isOpen =>
      rw [List.append_assoc, List.cons_append, ← List.replicate_succ']
      exact .finished (n + 1) finished rfl told isOpen

/-- A listener at a place is replaced, and the others stay. -/
theorem set_getElem? {l : Listener} (here : a.listeners[place]? = some l) (l' : Listener) (p : Nat) :
    (a.listeners.set place l')[p]? = if place = p then some l' else a.listeners[p]? := by
  obtain ⟨bound, -⟩ := List.getElem?_eq_some_iff.mp here
  rw [List.getElem?_set]
  split
  · rfl
  · rfl

/-- A status that is told waited longest, or nothing waited and it is the end. -/
theorem Reader.Looks.told {reader reader' : Reader} {feed feed' : Feed} {status : Status}
    (looks : reader.Looks feed (some (.status status)) reader' feed') :
    reader.finished = false ∧ reader' = { reader with finished := status.isTerminal } ∧ feed' = feed.take.2 ∧
      (feed.pending = status :: feed.take.2.pending ∨
        feed.pending = [] ∧ feed.take.2.pending = [] ∧ feed.terminal = some status) := by
  cases looks with
  | oldest unfinished waiting => simp [unfinished, Feed.take, waiting]
  | last unfinished nothing terminal => simp [unfinished, Feed.take, nothing, terminal]

/-- What waits and is terminal is the end of the feed. -/
theorem Attended.terminal_of_pending (h : Attended turns a) {status : Status} (waits : status ∈ a.feed.pending)
    (isTerminal : status.isTerminal = true) : a.feed.terminal = some status :=
  h.records.terminal.trans (find?_untilTerminal (h.records.pending.subset waits) isTerminal)

/-- Where one reader is served as it should be, all are. -/
theorem Attended.serve {terminal : Option Status} {l l' : Listener} (h : Attended turns a)
    (new : List Delivery) (same : terminal = a.feed.terminal) (here : a.listeners[place]? = some l)
    (served : Served terminal (some l') (givenTo place turns ++ new))
    (given : ∀ p, givenTo p (turns ++ [turn]) = givenTo p turns ++ if place = p then new else []) (p : Nat) :
    Served terminal (a.listeners.set place l')[p]? (givenTo p (turns ++ [turn])) := by
  rw [set_getElem? here, given]
  split
  · next at_place =>
    subst at_place
    exact served
  · rw [List.append_nil, same]
    exact h.served p

theorem Attended.next (h : Attended turns a) (step : Hears a turn b) : Attended (turns ++ [turn]) b := by
  have effect := step.effect
  have accepted := acceptedIn_append turns turn
  have told := toldIn_append turns turn
  have given (p : Nat) := (givenTo_append p turns [turn]).trans (congrArg _ (givenTo_single p turn))
  generalize turn.pushed? = pushed at effect accepted
  generalize turn.given? = gave at effect told given
  cases effect with
  | pushes status =>
      simp only [Option.bind_none, Option.toList_none, List.append_nil] at told given
      simp only [← h.records.terminal, ← Feed.gained_push] at accepted
      refine ⟨accepted ▸ h.records.push status, ?_, fun p => ?_⟩
      · rw [told, accepted, Feed.gained_push, List.filter_append, ← h.conserved, List.append_assoc]
        cases terminal : a.feed.terminal with
        | some t => simp [Feed.push_of_ended, terminal]
        | none => simp [Feed.push_of_open terminal]
      · rw [given]
        refine (h.served p).mono fun t terminal => ?_
        rw [Feed.push_of_ended (by simp [terminal]), terminal]
  | joins job =>
      simp only [Option.bind_none, Option.toList_none, List.append_nil] at told given accepted
      refine ⟨accepted ▸ h.records, by rw [told, accepted]; exact h.conserved, fun p => ?_⟩
      have served := h.served p
      rw [given, List.getElem?_append]
      split
      · exact served
      · next beyond =>
        rw [List.getElem?_eq_none (Nat.not_lt.mp beyond)] at served
        rw [served.eq_nil, List.getElem?_singleton]
        split
        · exact .listening rfl (by simp)
        · exact .absent
  | @tells place l status reader feed here looks =>
      obtain ⟨unfinished, rfl, rfl, waited⟩ := looks.told
      simp only [Option.bind_some, Delivery.status?, Option.toList_some, List.append_nil] at told accepted
      have isLast (last : status.isTerminal = true) : a.feed.terminal = some status := by
        rcases waited with waited | ⟨-, -, terminal⟩
        · exact h.terminal_of_pending (by simp [waited]) last
        · exact terminal
      refine ⟨accepted ▸ h.records.take, ?_, ?_⟩
      · rw [told, accepted, ← h.conserved, List.filter_append, List.append_assoc]
        rcases waited with waited | ⟨nothing, still, terminal⟩
        · rw [waited, ← List.filter_append, List.singleton_append]
        · simp [nothing, still, h.records.isTerminal terminal]
      · refine h.serve _ a.feed.take_terminal here ?_ given
        rw [Feed.take_terminal]
        exact (h.served_at here).tells unfinished isLast
  | ends here finished =>
      simp only [Option.bind_some, Delivery.status?, Option.toList_none, List.append_nil] at told accepted
      refine ⟨accepted ▸ h.records, by rw [told, accepted]; exact h.conserved, ?_⟩
      exact h.serve _ rfl here ((h.served_at here).ends finished) given
  | waits here unfinished isOpen =>
      simp only [Option.bind_none, Option.toList_none, List.append_nil] at told accepted
      refine ⟨accepted ▸ h.records, by rw [told, accepted]; exact h.conserved, ?_⟩
      refine h.serve [] rfl here ?_ fun p => (given p).trans (by simp)
      rw [List.append_nil]
      exact .listening unfinished ((h.served_at here).isOpen unfinished)
  | calms here waits =>
      simp only [Option.bind_some, Delivery.status?, Option.toList_none, List.append_nil] at told accepted
      refine ⟨accepted ▸ h.records, by rw [told, accepted]; exact h.conserved, ?_⟩
      exact h.serve _ rfl here ((h.served_at here).calms waits) given

/-! ### Every run -/

theorem Hearing.attended (run : Hearing {} turns a) : Attended turns a := by
  induction run with
  | none => exact ⟨Feed.Records.empty, rfl, fun _ => .absent⟩
  | next _ step ih => exact ih.next step

theorem Hearing.append {start : Audience} (first : Hearing start turns a) (second : Hearing a more b) :
    Hearing start (turns ++ more) b := by
  induction second with
  | none => simpa using first
  | next _ step ih =>
      rw [← List.append_assoc]
      exact ih.next step

theorem Hears.listeners_length (step : Hears a turn b) : a.listeners.length ≤ b.listeners.length := by
  cases step with
  | push => exact Nat.le_refl _
  | join => simp
  | look | wake | expire => simp

/-- The only reader has been told all that was accepted but what still waits. -/
theorem Hearing.only (run : Hearing {} turns a) (only : a.listeners.length ≤ 1) :
    (givenTo 0 turns).filterMap Delivery.status? ++ a.feed.pending = acceptedIn turns := by
  induction run with
  | none => rfl
  | @next turns a turn b earlier step ih =>
      have h := ih (Nat.le_trans step.listeners_length only)
      have few : a.listeners.length ≤ 1 := Nat.le_trans step.listeners_length only
      have attended := earlier.attended
      have first {place : Nat} {l : Listener} (here : a.listeners[place]? = some l) : place = 0 := by
        obtain ⟨bound, -⟩ := List.getElem?_eq_some_iff.mp here
        omega
      have effect := step.effect
      have accepted := acceptedIn_append turns turn
      have given := (givenTo_append 0 turns [turn]).trans (congrArg _ (givenTo_single 0 turn))
      generalize turn.pushed? = pushed at effect accepted
      generalize turn.given? = gave at effect given
      rw [given, accepted]
      cases effect with
      | pushes status =>
          simp only [← attended.records.terminal, List.append_nil]
          cases terminal : a.feed.terminal with
          | some t => simpa [Feed.push_of_ended, terminal] using h
          | none => simp [Feed.push_of_open terminal, ← h]
      | joins job => simpa using h
      | @tells place l status reader feed here looks =>
          obtain rfl := first here
          obtain ⟨unfinished, rfl, rfl, waited⟩ := looks.told
          rcases waited with waited | ⟨nothing, still, terminal⟩
          · rw [waited] at h
            simpa [List.filterMap_cons, Delivery.status?] using h
          · -- the end was accepted, so it has been told, but then this reader had finished
            rw [nothing, List.append_nil] at h
            have hmem : status ∈ acceptedIn turns :=
              List.mem_of_find?_eq_some (attended.records.terminal.symm.trans terminal)
            rw [← h] at hmem
            obtain ⟨delivery, hdelivery, hstatus⟩ := List.mem_filterMap.mp hmem
            have isOpen := (attended.served_at here).isOpen unfinished delivery hdelivery
            cases delivery with
            | status told =>
                cases hstatus
                simp [Delivery.isOpen, attended.records.isTerminal terminal] at isOpen
            | keepAlive | ended => cases hstatus
      | @ends place l here finished =>
          obtain rfl := first here
          simpa [List.filterMap_cons, Delivery.status?] using h
      | waits here unfinished isOpen => simpa using h
      | @calms place l here waits =>
          obtain rfl := first here
          simpa [List.filterMap_cons, Delivery.status?] using h

/-- Whether a place has a reader of whom something holds. -/
def Audience.hasAt (a : Audience) (holds : Listener → Bool) (place : Nat) : Bool :=
  (a.listeners[place]?).any holds

theorem Audience.hasAt_set {l : Listener} (here : a.listeners[place]? = some l) (l' : Listener) (feed : Feed)
    (holds : Listener → Bool) (p : Nat) : hasAt ⟨feed, a.listeners.set place l'⟩ holds p =
      if place = p then holds l' else a.hasAt holds p := by
  unfold hasAt
  rw [set_getElem? here]
  split <;> rfl

theorem Audience.hasAt_join (a : Audience) (l : Listener) {holds : Listener → Bool} (newcomer : holds l = false)
    (p : Nat) : hasAt { a with listeners := a.listeners ++ [l] } holds p = a.hasAt holds p := by
  unfold hasAt
  rw [List.getElem?_append]
  split
  · rfl
  · next beyond =>
    rw [List.getElem?_eq_none (Nat.not_lt.mp beyond), List.getElem?_singleton]
    split
    · exact newcomer
    · rfl

/-- Once the feed has ended, nobody is given more than what waits, and one answer to an earlier look, before
the end. -/
theorem Hearing.given_le {terminal : Status} (ended : a.feed.terminal = some terminal)
    (isTerminal : terminal.isTerminal = true) (hearing : Hearing a more b) (place : Nat) :
    b.feed.terminal = some terminal ∧ (b.hasAt (·.reader.finished) place = false →
      (givenTo place more).length + b.feed.pending.length + (b.hasAt (·.waits) place).toNat ≤
        a.feed.pending.length + (a.hasAt (·.waits) place).toNat) := by
  induction hearing with
  | none => exact ⟨ended, fun _ => by simp [givenTo]⟩
  | @next more b turn c earlier step ih =>
      obtain ⟨still, bound⟩ := ih
      have effect := step.effect
      have given := (givenTo_append place more [turn]).trans (congrArg _ (givenTo_single place turn))
      generalize turn.pushed? = pushed at effect
      generalize turn.given? = gave at effect given
      rw [given]
      cases effect with
      | pushes status =>
          rw [Feed.push_of_ended (by simp [still])]
          exact ⟨still, by simpa using bound⟩
      | joins job =>
          refine ⟨still, ?_⟩
          rw [b.hasAt_join _ rfl, b.hasAt_join _ rfl]
          simpa using bound
      | @tells p l status reader feed here looks =>
          obtain ⟨unfinished, rfl, rfl, waited⟩ := looks.told
          refine ⟨by rw [Feed.take_terminal, still], fun listens => ?_⟩
          rw [Audience.hasAt_set here] at listens
          rw [Audience.hasAt_set here]
          by_cases at_place : p = place
          · subst at_place
            have before := bound (by simp [Audience.hasAt, here, unfinished])
            rcases waited with waited | ⟨-, -, last⟩
            · rw [waited, List.length_cons] at before
              simp only [↓reduceIte, List.length_append, List.length_singleton, Bool.toNat_false]
              omega
            · -- the end finishes the reader
              rw [still] at last
              cases last
              simp [isTerminal] at listens
          · rw [if_neg at_place] at listens
            have before := bound listens
            have fewer : b.feed.take.2.pending.length ≤ b.feed.pending.length := by
              rcases waited with waited | ⟨nothing, still, -⟩
              · rw [waited, List.length_cons]
                exact Nat.le_succ _
              · exact Nat.le_of_eq (by rw [nothing, still])
            simp only [if_neg at_place, List.append_nil]
            omega
      | @ends p l here finished =>
          refine ⟨still, fun listens => ?_⟩
          rw [Audience.hasAt_set here] at listens
          rw [Audience.hasAt_set here]
          by_cases at_place : p = place
          · simp [at_place, finished] at listens
          · simpa [at_place] using bound (by simpa [at_place] using listens)
      | waits here unfinished isOpen =>
          rw [still] at isOpen
          cases isOpen
      | @calms p l here waits =>
          refine ⟨still, fun listens => ?_⟩
          rw [Audience.hasAt_set here] at listens
          rw [Audience.hasAt_set here]
          by_cases at_place : p = place
          · subst at_place
            have before := bound (by simpa [Audience.hasAt, here] using listens)
            have waited : b.hasAt (·.waits) p = true := by simp [Audience.hasAt, here, waits]
            rw [waited, Bool.toNat_true] at before
            simp only [↓reduceIte, List.length_append, List.length_singleton, Bool.toNat_false]
            omega
          · simpa [at_place] using bound (by simpa [at_place] using listens)

/-- What is told before any end, to whomever, are the first statuses that the feed accepted, in their order. -/
theorem Hearing.told_prefix (run : Hearing {} turns a) :
    (toldIn turns).filter (fun status => !status.isTerminal) <+: acceptedIn turns := by
  have told : (toldIn turns).filter (fun status => !status.isTerminal) <+:
      (acceptedIn turns).filter fun status => !status.isTerminal :=
    ⟨_, run.attended.conserved⟩
  exact told.trans (filter_untilTerminal _)

/-- A reader is given what leaves the feed open, and the end at most once, after which it is over. -/
theorem Hearing.given_shape (run : Hearing {} turns a) (place : Nat) :
    ∃ heard, (∀ delivery ∈ heard, Delivery.isOpen delivery = true) ∧
      (givenTo place turns = heard ∨ ∃ terminal n, terminal ∈ acceptedIn turns ∧ terminal.isTerminal = true ∧
        givenTo place turns = heard ++ .status terminal :: List.replicate n .ended) := by
  have attended := run.attended
  have served := attended.served place
  generalize a.listeners[place]? = l at served
  generalize givenTo place turns = given at served
  cases served with
  | absent => exact ⟨[], by simp, Or.inl rfl⟩
  | listening _ isOpen => exact ⟨_, isOpen, Or.inl rfl⟩
  | @finished _ heard terminal n _ _ told isOpen =>
      have accepted := List.mem_of_find?_eq_some (attended.records.terminal.symm.trans told)
      exact ⟨heard, isOpen, Or.inr ⟨terminal, n, accepted, attended.records.isTerminal told, rfl⟩⟩

/-- A feed has ended with the first end that it accepted. -/
theorem Hearing.terminal_eq (run : Hearing {} turns a) {terminal : Status} (accepted : terminal ∈ acceptedIn turns)
    (isTerminal : terminal.isTerminal = true) : a.feed.terminal = some terminal :=
  run.attended.records.terminal.trans (find?_untilTerminal accepted isTerminal)

/-- A feed that has ended answers every look. -/
theorem Hears.answers {terminal : Status} (ended : a.feed.terminal = some terminal) (place : Nat) (b : Audience) :
    ¬Hears a (.look place none) b := by
  intro step
  cases step with
  | @look _ l _ _ _ here idle looks =>
      have looked := l.reader.looks_poll a.feed
      rw [looks] at looked
      cases looked with
      | nothing _ _ isOpen =>
          rw [ended] at isOpen
          cases isOpen

/-- A reader who goes on after the end has been told it, once what waits is used up. -/
theorem Hearing.told_end (run : Hearing {} turns a) {terminal : Status} (ended : a.feed.terminal = some terminal)
    (isTerminal : terminal.isTerminal = true) (hearing : Hearing a more b)
    (long : a.feed.pending.length + 1 < (givenTo place more).length) :
    .status terminal ∈ givenTo place (turns ++ more) := by
  obtain ⟨still, bound⟩ := hearing.given_le ended isTerminal place
  have served := (run.append hearing).attended.served place
  cases finished : b.hasAt (·.reader.finished) place with
  | false =>
      have few := bound finished
      have flag := Bool.toNat_le (a.hasAt (·.waits) place)
      omega
  | true =>
      unfold Audience.hasAt at finished
      generalize b.listeners[place]? = l at served finished
      generalize givenTo place (turns ++ more) = given at served
      cases served with
      | absent => cases finished
      | listening unfinished => simp [unfinished] at finished
      | @finished _ heard status n _ _ told =>
          rw [still] at told
          cases told
          simp

/-- A sign of life leaves the feed as it is. -/
theorem Hears.keepAlive_feed (step : Hears a turn b)
    (given : turn.given? = some (place, .keepAlive)) : b.feed = a.feed := by
  have effect := step.effect
  rw [given] at effect
  generalize turn.pushed? = pushed at effect
  cases effect with
  | calms => rfl

/-- **What readers are given.** The statuses told before any end, to all readers together and in the order in which
that happened, are the first that the feed accepted. A reader is given statuses and signs of life, then the end once,
and after that only that it is over. Once the feed has ended no look is left without an answer, and a reader who
was given more than what waited and one answer to an earlier look has been told the end. A sign of life leaves the
feed as it is. An only reader is told all that was accepted, in order, but what still waits. -/
theorem feed_delivers (run : Hearing {} turns a) :
    (toldIn turns).filter (fun status => !status.isTerminal) <+: acceptedIn turns ∧
    (∀ place, ∃ heard, (∀ delivery ∈ heard, Delivery.isOpen delivery = true) ∧
      (givenTo place turns = heard ∨ ∃ terminal n, terminal ∈ acceptedIn turns ∧ terminal.isTerminal = true ∧
        givenTo place turns = heard ++ .status terminal :: List.replicate n .ended)) ∧
    (∀ terminal ∈ acceptedIn turns, terminal.isTerminal = true → ∀ place,
      (∀ b, ¬Hears a (.look place none) b) ∧
      ∀ more b, Hearing a more b → a.feed.pending.length + 1 < (givenTo place more).length →
        .status terminal ∈ givenTo place (turns ++ more)) ∧
    (∀ turn place b, Hears a turn b → turn.given? = some (place, .keepAlive) → b.feed = a.feed) ∧
    (a.listeners.length = 1 →
      (givenTo 0 turns).filterMap Delivery.status? ++ a.feed.pending = acceptedIn turns) := by
  refine ⟨run.told_prefix, run.given_shape, ?_, fun _ _ _ step given => step.keepAlive_feed given,
    fun only => run.only (Nat.le_of_eq only)⟩
  intro terminal accepted isTerminal place
  have ended := run.terminal_eq accepted isTerminal
  exact ⟨Hears.answers ended place, fun _ _ hearing long => run.told_end ended isTerminal hearing long⟩

/-- Two readers share a feed: each non-terminal status goes to one of them, and both are told the end. -/
theorem feed_delivers_shared : ∃ turns a, Hearing {} turns a ∧ acceptedIn turns = [.queued, .running "a", .cancelled] ∧
    toldIn turns = [.queued, .running "a", .cancelled, .cancelled] ∧
    givenTo 0 turns = [.status .queued, .keepAlive, .status .cancelled, .ended] ∧
    givenTo 1 turns = [.status (.running "a"), .status .cancelled] ∧
    (toldIn turns).filter (fun status => !status.isTerminal) <+: acceptedIn turns := by
  have first : Hearing {} [.join 1] _ := .next .none (.join 1)
  have second := first.next (.join 1)
  have queued := second.next (.push .queued)
  have running := queued.next (.push (.running "a"))
  have toldQueued := running.next (@Hears.look _ 0 _ _ _ _ rfl rfl rfl)
  have toldRunning := toldQueued.next (@Hears.look _ 1 _ _ _ _ rfl rfl rfl)
  have waits := toldRunning.next (@Hears.look _ 0 _ _ _ _ rfl rfl rfl)
  have calmed := waits.next (@Hears.expire _ 0 _ rfl rfl)
  have waitsToo := calmed.next (@Hears.look _ 1 _ _ _ _ rfl rfl rfl)
  have cancelled := waitsToo.next (.push .cancelled)
  have late := cancelled.next (.push .queued)
  have woken := late.next (@Hears.wake _ 1 _ _ _ _ rfl rfl rfl)
  have told := woken.next (@Hears.look _ 0 _ _ _ _ rfl rfl rfl)
  have closed := told.next (@Hears.look _ 0 _ _ _ _ rfl rfl rfl)
  exact ⟨_, _, closed, rfl, rfl, rfl, rfl, (feed_delivers closed).1⟩

end Gradebook.Jobs
