import Gradebook.Proofs.Jobs.Scene

/-! What the operations of the queue do to its feeds. A feed changes in two ways only, by a push and by a
read, and no operation touches the feed of more than one job. -/

namespace Gradebook.Jobs

namespace Feed

variable {feed : Feed} {status : Status}

theorem push_of_ended (ended : feed.terminal.isSome = true) : feed.push status = feed :=
  if_pos ended

theorem push_of_open (isOpen : feed.terminal = none) :
    feed.push status =
      { pending := feed.pending ++ [status]
        terminal := if status.isTerminal then some status else none
        pushes := feed.pushes + 1 } := by
  simp [push, isOpen]

@[simp] theorem gained_self (feed : Feed) : feed.gained feed = [] := by simp [gained]

theorem gained_push (feed : Feed) (status : Status) :
    feed.gained (feed.push status) = if feed.terminal.isSome then [] else [status] := by
  unfold push gained
  split <;> simp

@[simp] theorem take_terminal (feed : Feed) : feed.take.2.terminal = feed.terminal := by
  unfold take
  split <;> rfl

@[simp] theorem take_pushes (feed : Feed) : feed.take.2.pushes = feed.pushes := by
  unfold take
  split <;> rfl

@[simp] theorem gained_take (feed : Feed) : feed.gained feed.take.2 = [] := by
  unfold take gained
  split
  · next h => simp [h]
  · simp

end Feed

/-- A reader that looks at a feed takes a status out of it, or leaves it alone. -/
theorem Reader.poll_feed (reader : Reader) (feed : Feed) :
    (reader.poll feed).2.2 = feed ∨ (reader.poll feed).2.2 = feed.take.2 := by
  unfold Reader.poll
  split
  · exact Or.inl rfl
  · right
    split <;> next h => rw [h]

theorem Reader.poll_job (reader : Reader) (feed : Feed) : (reader.poll feed).2.1.job = reader.job := by
  unfold Reader.poll
  split
  · rfl
  · split <;> rfl

theorem Status.isTerminal_terminalOf (id : JobId) (cancelled : Bool) (ending : Ending) :
    (Queue.terminalOf id cancelled ending).isTerminal = true := by
  unfold Queue.terminalOf
  split
  · rfl
  · split <;> rfl

namespace Queue

variable {q q' : Queue} {id : JobId}

private theorem lookup_filter_ne {id other : JobId} (hne : other ≠ id) (feeds : List (JobId × Feed)) :
    (feeds.filter (·.1 != id)).lookup other = feeds.lookup other := by
  induction feeds with
  | nil => rfl
  | cons entry rest ih =>
      by_cases hentry : entry.1 = id
      · have hother : (other == entry.1) = false := by simpa [hentry] using hne
        rw [List.filter_cons_of_neg (by simp [hentry]), List.lookup_cons, hother, ih]
      · rw [List.filter_cons_of_pos (by simpa using hentry), List.lookup_cons, List.lookup_cons, ih]

theorem feed_withFeed (q : Queue) (id : JobId) (feed : Feed) (other : JobId) :
    (q.withFeed id feed).feed other = if other = id then feed else q.feed other := by
  unfold withFeed Queue.feed
  by_cases h : other = id
  · simp [h]
  · have hbeq : (other == id) = false := by simpa using h
    simp [h, List.lookup_cons, hbeq, lookup_filter_ne h]

theorem feed_push (q : Queue) (id : JobId) (status : Status) (other : JobId) :
    (q.push id status).feed other = if other = id then (q.feed id).push status else q.feed other :=
  feed_withFeed q id _ other

/-! ### What the operations do -/

/-- A queue that accepts a job is open, gives it the next number and tells that it is queued. -/
theorem publish_ok {payload : Payload} {job : Job} (h : q.publish payload = (.ok job, q')) :
    q.closed = false ∧ job = ⟨q.nextId, payload⟩ ∧
      q' = Queue.push q.nextId .queued { q with
        nextId := q.nextId + 1
        tokens := q.tokens ++ [q.nextId]
        listed := q.listed ++ [q.nextId]
        tracked := q.tracked ++ [q.nextId] } := by
  unfold publish at h
  split at h
  · simp at h
  · next hopen =>
    simp only [Prod.mk.injEq, Except.ok.injEq] at h
    exact ⟨by simpa using hopen, h.1.symm, h.2.symm⟩

theorem publish_error {payload : Payload} {fault : Fault} (h : q.publish payload = (.error fault, q')) :
    q.closed = true ∧ fault = closedFault ∧ q' = q := by
  unfold publish at h
  split at h
  · next hclosed =>
    simp only [Prod.mk.injEq, Except.error.injEq] at h
    exact ⟨hclosed, h.1.symm, h.2.symm⟩
  · simp at h

theorem feed_finish (id : JobId) (ending : Ending) (q : Queue) :
    (q.finish id ending).feed = (q.push id (terminalOf id (q.isCancelled id) ending)).feed := rfl

theorem takeToken_ok (h : q.takeToken id = (.ok (), q')) :
    id ∈ q.tokens ∧ q' = { q with tokens := q.tokens.filter (· != id) } := by
  unfold takeToken at h
  split at h
  · next hmem =>
    simp only [Prod.mk.injEq, true_and] at h
    exact ⟨by simpa using hmem, h.symm⟩
  · simp at h

theorem takeToken_error {fault : Fault} (h : q.takeToken id = (.error fault, q')) :
    id ∉ q.tokens ∧ fault = .notFound ("job " ++ toString id ++ " not found or finished") ∧ q' = q := by
  unfold takeToken at h
  split at h
  · simp at h
  · next hmem =>
    simp only [Prod.mk.injEq, Except.error.injEq] at h
    exact ⟨by simpa using hmem, h.1.symm, h.2.symm⟩

/-- A poll reads the reader's feed, or changes no feed at all. -/
theorem poll_feed {reader reader' : Reader} {delivery : Option Delivery}
    (h : q.poll reader = (delivery, reader', q')) (id : JobId) :
    q'.feed id = q.feed id ∨ q'.feed id = (q.feed id).take.2 := by
  simp only [poll, Prod.mk.injEq, Reader.poll_job] at h
  rw [← h.2.2, feed_withFeed]
  split
  · next hid =>
    rw [hid]
    exact reader.poll_feed (q.feed reader.job)
  · exact Or.inl rfl

/-- A poll changes nothing but feeds. -/
theorem poll_frame {reader reader' : Reader} {delivery : Option Delivery}
    (h : q.poll reader = (delivery, reader', q')) : ∃ feeds, q' = { q with feeds } := by
  simp only [poll, Prod.mk.injEq] at h
  exact ⟨_, h.2.2.symm⟩

end Queue

end Gradebook.Jobs
