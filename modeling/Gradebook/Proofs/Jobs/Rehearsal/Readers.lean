import Gradebook.Proofs.Jobs.Rehearsal.Tasks

/-! The readers of a rehearsal. A reader looks at its feed and, where it finds nothing, waits for its heartbeat,
alone or beside another reader, while jobs go on. Whatever it is told at last, it was given by a move of its own,
or it is a sign of life. -/

namespace Gradebook.Jobs

variable {retention : Nat}

/-- Nobody is given a sign of life by a feed: it is what a reader is told who was given nothing. -/
theorem Reader.poll_speaks {reader reader' : Reader} {feed feed' : Feed} {delivery : Delivery}
    (polls : reader.poll feed = (some delivery, reader', feed')) : delivery ≠ .keepAlive := by
  unfold Reader.poll at polls
  split at polls
  · cases polls
    exact nofun
  · split at polls <;> cases polls
    exact nofun

namespace Rehearsal

variable {r r' r'' : Rehearsal} {name : String} {reader : Reader} {watch : Watch} {side side' : Delivery ⊕ Watch}

/-! ### Deliveries -/

/-- What was told without the signs of life. -/
def heard (told : List Delivery) : List Delivery := told.filter (· != .keepAlive)

theorem heard_cons (delivery : Delivery) (told : List Delivery) :
    heard (delivery :: told) = heard [delivery] ++ heard told := List.filter_append [delivery] told

/-- Whatever run the first rehearsal plays, the second plays a continuation of it, in which just some calls are
made and readers are given just some deliveries. -/
def PlaysOn (retention : Nat) (r : Rehearsal) (called : List Move) (given : List Delivery) (r' : Rehearsal) : Prop :=
  ∀ moves s, Plays retention [] r moves s →
    ∃ more t, calls more = called ∧ (handed more).Perm given ∧ Plays retention [] r' (moves ++ more) t

namespace PlaysOn

variable {called later : List Move} {given others : List Delivery}

theorem trans (first : PlaysOn retention r called given r') (second : PlaysOn retention r' later others r'') :
    PlaysOn retention r (called ++ later) (given ++ others) r'' := by
  intro moves s plays
  obtain ⟨more, t, made, told, plays⟩ := first moves s plays
  obtain ⟨further, u, made', told', plays⟩ := second _ t plays
  refine ⟨more ++ further, u, ?_, ?_, List.append_assoc moves more further ▸ plays⟩
  · rw [calls_append, made, made']
  · rw [handed_append]
    exact told.append told'

theorem perm (plays : PlaysOn retention r called given r') (same : given.Perm others) :
    PlaysOn retention r called others r' := by
  intro moves s played
  obtain ⟨more, t, made, told, played⟩ := plays moves s played
  exact ⟨more, t, made, told.trans same, played⟩

end PlaysOn

theorem GoesOn.playsOn (goesOn : GoesOn retention [] r [] r') : PlaysOn retention r [] [] r' := by
  intro moves s plays
  obtain ⟨more, t, quiet, plays⟩ := goesOn.2 moves s plays
  exact ⟨more, t, quiet.1, .of_eq quiet.2, plays⟩

/-! ### Readers that wait -/

/-- What a reader was given so far in its turn. -/
def given : Delivery ⊕ Watch → List Delivery
  | .inl delivery => heard [delivery]
  | .inr _ => []

/-- A reader that waits has the name it waits under. -/
def Attends (r : Rehearsal) (side : Delivery ⊕ Watch) : Prop :=
  ∀ watch, side = .inr watch → (watch.name, watch.reader) ∈ r.readers

/-- The turn of a reader goes on from one side to another. It is given what it is told then, it keeps its name,
and all other readers stay as they are. -/
structure Turns (retention : Nat) (r : Rehearsal) (side side' : Delivery ⊕ Watch) (r' : Rehearsal) : Prop where
  plays : ∃ new, given side ++ new = given side' ∧ PlaysOn retention r [] new r'
  attends : r'.Attends side'
  stays : ∀ watch', side' = .inr watch' → ∃ watch, side = .inr watch ∧ watch'.name = watch.name
  names : r'.readers.map Prod.fst = r.readers.map Prod.fst
  others : ∀ entry ∈ r.readers, (∀ watch, side = .inr watch → entry.1 ≠ watch.name) → entry ∈ r'.readers

namespace Turns

variable {last : Delivery ⊕ Watch}

theorem trans (first : Turns retention r side side' r') (second : Turns retention r' side' last r'') :
    Turns retention r side last r'' where
  plays := by
    obtain ⟨new, told, plays⟩ := first.plays
    obtain ⟨further, told', plays'⟩ := second.plays
    refine ⟨new ++ further, ?_, plays.trans plays'⟩
    rw [← List.append_assoc, told, told']
  attends := second.attends
  stays watch'' waits := by
    obtain ⟨watch', waits', same'⟩ := second.stays watch'' waits
    obtain ⟨watch, waits, same⟩ := first.stays watch' waits'
    exact ⟨watch, waits, same'.trans same⟩
  names := second.names.trans first.names
  others entry among apart := by
    refine second.others entry (first.others entry among apart) fun watch' waits' => ?_
    obtain ⟨watch, waits, same⟩ := first.stays watch' waits'
    rw [same]
    exact apart watch waits

/-- Time passes for a reader. -/
theorem of_goesOn (goesOn : GoesOn retention [] r [] r') (attends : r.Attends side) :
    Turns retention r side side r' where
  plays := ⟨[], List.append_nil _, goesOn.playsOn⟩
  attends watch waits := goesOn.1 ▸ attends watch waits
  stays watch waits := ⟨watch, waits, rfl⟩
  names := congrArg _ goesOn.1
  others _ among _ := goesOn.1 ▸ among

theorem refl (attends : r.Attends side) : Turns retention r side side r := of_goesOn (.refl r) attends

/-- The heartbeat of a reader is over. -/
theorem giveUp (r : Rehearsal) (side : Delivery ⊕ Watch) : Turns retention r side (.inl (overdue side)) r where
  plays := by
    refine ⟨[], ?_, (GoesOn.refl r).playsOn⟩
    rw [List.append_nil]
    cases side <;> rfl
  attends _ waits := absurd waits Sum.inl_ne_inr
  stays _ waits := absurd waits Sum.inl_ne_inr
  names := rfl
  others _ among _ := among

end Turns

/-- A named reader looks at its feed. -/
theorem glance_turns (named : (watch.name, watch.reader) ∈ r.readers) :
    Turns retention r (.inr watch) (r.glance watch.name watch.reader).1 (r.glance watch.name watch.reader).2 := by
  obtain ⟨delivery, reader', queue, polls⟩ : ∃ delivery reader' queue,
      r.queue.poll watch.reader = (delivery, reader', queue) := ⟨_, _, _, rfl⟩
  let after : Rehearsal := { r with
    queue
    readers := r.readers.map fun entry => if entry.1 == watch.name then (watch.name, reader') else entry }
  have plays : PlaysOn retention r [] delivery.toList after := by
    intro moves s plays
    obtain ⟨k, here, seated⟩ := plays.seated.change named
    have step := Step.poll here (plays.queue ▸ polls)
    refine ⟨[.poll k delivery], _, rfl, ?_, plays.run.next step, rfl, ?_, seated reader'⟩
    · cases delivery <;> exact .refl _
    · exact plays.assigned.congr rfl
  have names : after.readers.map Prod.fst = r.readers.map Prod.fst := by
    change (r.readers.map _).map _ = _
    rw [List.map_map]
    refine List.map_congr_left fun entry _ => ?_
    by_cases own : entry.1 = watch.name <;> simp [own]
  have others : ∀ entry ∈ r.readers, (∀ other, .inr watch = (.inr other : Delivery ⊕ Watch) → entry.1 ≠ other.name) →
      entry ∈ after.readers := by
    intro entry among apart
    exact List.mem_map.mpr ⟨entry, among, if_neg (by simpa using apart watch rfl)⟩
  unfold glance
  rw [polls]
  cases delivery with
  | none =>
      refine ⟨⟨[], rfl, plays⟩, ?_, fun _ waits => ⟨watch, rfl, ?_⟩, names, others⟩
      · rintro _ ⟨⟩
        exact List.mem_map.mpr ⟨_, named, if_pos (beq_self_eq_true _)⟩
      · cases waits
        rfl
  | some delivery =>
      have speaks : delivery ≠ .keepAlive := by
        simp only [Queue.poll, Prod.mk.injEq] at polls
        exact Reader.poll_speaks (Prod.ext polls.1 rfl)
      refine ⟨⟨[delivery], ?_, plays⟩, fun _ waits => absurd waits Sum.inl_ne_inr,
        fun _ waits => absurd waits Sum.inl_ne_inr, names, others⟩
      simp [given, heard, speaks]

theorem lookAgain_turns (named : (watch.name, watch.reader) ∈ r.readers) :
    Turns retention r (.inr watch) (.inl (r.lookAgain watch).1) (r.lookAgain watch).2 := by
  have looks : Turns retention r (.inr watch) _ _ := glance_turns named
  unfold lookAgain
  split
  · next told r' glanced =>
    rw [glanced] at looks
    exact looks
  · next still r' glanced =>
    rw [glanced] at looks
    exact looks.trans (.giveUp r' (.inr still))

theorem lookIfAwake_turns (attends : r.Attends side) :
    Turns retention r side (r.lookIfAwake side).1 (r.lookIfAwake side).2 := by
  cases side with
  | inl delivery => exact .refl attends
  | inr watch =>
      unfold lookIfAwake
      dsimp only
      split
      · exact lookAgain_turns (attends watch rfl)
      · exact .refl attends

theorem replenish_goesOn (r : Rehearsal) : GoesOn retention [] r [] r.replenish := by
  unfold replenish
  split
  · exact (round_goesOn r).trans (.of_perm rfl rfl (.refl _))
  · exact .refl r

theorem spend_goesOn (r : Rehearsal) : GoesOn retention [] r [] r.spend :=
  (replenish_goesOn r).trans (.of_perm rfl rfl (.refl _))

theorem pass_goesOn (deadline : Nat) (stop : Rehearsal → Bool) (r : Rehearsal) :
    GoesOn retention [] r [] (r.pass deadline stop).2 := passWithin_goesOn deadline stop _ r

/-- A reader that waits no time is answered. -/
theorem answerNow_turns (attends : r.Attends side) :
    Turns retention r side (.inl (r.answerNow side).1) (r.answerNow side).2 := by
  cases side with
  | inl delivery => exact .refl attends
  | inr watch =>
      have waits : Turns retention r (.inr watch) (.inr watch) r.replenish := .of_goesOn (replenish_goesOn r) attends
      unfold answerNow
      dsimp only
      split
      · exact waits.trans (lookAgain_turns (waits.attends watch rfl))
      · exact (waits.trans (.of_goesOn (spend_goesOn _) waits.attends)).trans (.giveUp _ _)

/-- A reader waits for its next delivery, for a heartbeat at most. -/
theorem receiveFor_turns (named : (name, reader) ∈ r.readers) :
    Turns retention r (.inr ⟨name, reader, 0⟩) (.inl (r.receiveFor name reader).1) (r.receiveFor name reader).2 := by
  have looks : Turns retention r (.inr ⟨name, reader, 0⟩) (r.glance name reader).1 (r.glance name reader).2 :=
    glance_turns named
  unfold receiveFor
  split
  · next told r' glanced =>
    rw [glanced] at looks
    exact looks
  · next watch r' glanced =>
    rw [glanced] at looks
    split
    · exact looks.trans (answerNow_turns looks.attends)
    · have waits : Turns retention r' (.inr watch) (.inr watch) _ :=
        .of_goesOn (pass_goesOn (r'.now + r'.heartbeat) (fun r => r.isAwake watch) r') looks.attends
      split
      · next r'' passed =>
        rw [passed] at waits
        exact (looks.trans waits).trans (lookAgain_turns (waits.attends watch rfl))
      · next r'' passed =>
        rw [passed] at waits
        exact (looks.trans waits).trans (.giveUp _ _)

/-- A turn that began with a reader waiting has given it what it is told in the end. -/
theorem Turns.told {told : Delivery} (turns : Turns retention r (.inr watch) (.inl told) r') :
    PlaysOn retention r [] (heard [told]) r' := by
  obtain ⟨new, all, plays⟩ := turns.plays
  rw [show new = heard [told] from all] at plays
  exact plays

theorem mem_of_lookup {named : List (String × Reader)} (known : named.lookup name = some reader) :
    (name, reader) ∈ named := by
  obtain ⟨before, after, rfl, -⟩ := List.lookup_eq_some_iff.mp known
  exact List.mem_append_right _ List.mem_cons_self

theorem exists_lookup {named : List (String × Reader)} (known : name ∈ named.map Prod.fst) :
    ∃ reader, named.lookup name = some reader := by
  cases found : named.lookup name with
  | some reader => exact ⟨reader, rfl⟩
  | none =>
      obtain ⟨entry, among, rfl⟩ := List.mem_map.mp known
      have other := List.lookup_eq_none_iff.mp found entry among
      simp at other

theorem receive_eq (known : r.readers.lookup name = some reader) :
    r.receive name = (some (r.receiveFor name reader).1, (r.receiveFor name reader).2) := by
  rw [receive, known]

theorem receive_plays (name : String) (r : Rehearsal) :
    PlaysOn retention r [] (heard (r.receive name).1.toList) (r.receive name).2 := by
  unfold receive
  split
  · next reader known => exact (receiveFor_turns (mem_of_lookup known)).told
  · exact (GoesOn.refl r).playsOn

/-- A reader that is drained is told one delivery after the other, up to its end or a number of them. -/
theorem drain_told (limit : Nat) (known : name ∈ r.readers.map Prod.fst) : ∃ told,
    (drain name limit r).1 = some told ∧ PlaysOn retention r [] (heard told) (drain name limit r).2 := by
  induction limit generalizing r with
  | zero =>
      obtain ⟨reader, found⟩ := exists_lookup known
      exact ⟨[], by rw [drain, found]; rfl, (GoesOn.refl r).playsOn⟩
  | succ limit ih =>
      obtain ⟨reader, found⟩ := exists_lookup known
      have turns : Turns retention r _ _ _ := receiveFor_turns (mem_of_lookup found)
      -- whatever is told before the end, the reader keeps its name and is drained on
      have more {told : Delivery} {r' : Rehearsal}
          (turns : Turns retention r (.inr ⟨name, reader, 0⟩) (.inl told) r') : ∃ rest,
          (drain name limit r').1 = some rest ∧
            PlaysOn retention r [] (heard (told :: rest)) (drain name limit r').2 := by
        obtain ⟨rest, drains, plays⟩ := ih (turns.names.symm ▸ known)
        exact ⟨rest, drains, heard_cons told rest ▸ turns.told.trans plays⟩
      rw [drain, receive_eq found]
      generalize r.receiveFor name reader = answer at turns
      obtain ⟨told, r'⟩ := answer
      cases told with
      | ended => exact ⟨[.ended], rfl, turns.told⟩
      | status status =>
          obtain ⟨rest, drains, plays⟩ := more turns
          exact ⟨.status status :: rest, congrArg (Option.map _) drains, plays⟩
      | keepAlive =>
          obtain ⟨rest, drains, plays⟩ := more turns
          exact ⟨.keepAlive :: rest, congrArg (Option.map _) drains, plays⟩

theorem drain_plays (name : String) (limit : Nat) (r : Rehearsal) :
    PlaysOn retention r [] (heard ((drain name limit r).1.getD [])) (drain name limit r).2 := by
  by_cases known : name ∈ r.readers.map Prod.fst
  · obtain ⟨told, drains, plays⟩ := drain_told limit known
    rw [drains]
    exact plays
  · have unknown : r.readers.lookup name = none := by
      cases found : r.readers.lookup name with
      | none => rfl
      | some reader => exact absurd (List.mem_map.mpr ⟨_, mem_of_lookup found, rfl⟩) known
    have nobody : drain name limit r = (none, r) := by
      cases limit <;> simp [drain, receive, unknown]
    rw [nobody]
    exact (GoesOn.refl r).playsOn

/-! ### Two readers that wait at the same time -/

/-- Two readers, each under a name of its own where it waits. -/
structure Abreast (r : Rehearsal) (a b : Delivery ⊕ Watch) : Prop where
  first : r.Attends a
  second : r.Attends b
  apart : ∀ watch other, a = .inr watch → b = .inr other → watch.name ≠ other.name

/-- The turns of two readers go on, and they are given what they are told then. -/
structure TurnBoth (retention : Nat) (r : Rehearsal) (a b a' b' : Delivery ⊕ Watch) (r' : Rehearsal) : Prop where
  plays : ∃ new, (given a ++ given b ++ new).Perm (given a' ++ given b') ∧ PlaysOn retention r [] new r'
  abreast : r'.Abreast a' b'

namespace TurnBoth

variable {a b a' b' a'' b'' : Delivery ⊕ Watch}

theorem trans (first : TurnBoth retention r a b a' b' r') (second : TurnBoth retention r' a' b' a'' b'' r'') :
    TurnBoth retention r a b a'' b'' r'' where
  plays := by
    obtain ⟨new, told, plays⟩ := first.plays
    obtain ⟨further, told', plays'⟩ := second.plays
    refine ⟨new ++ further, ?_, plays.trans plays'⟩
    rw [← List.append_assoc]
    exact (told.append_right further).trans told'
  abreast := second.abreast

/-- The first of two readers has its turn. -/
theorem left (abreast : r.Abreast a b) (turns : Turns retention r a a' r') : TurnBoth retention r a b a' b r' where
  plays := by
    obtain ⟨new, told, plays⟩ := turns.plays
    refine ⟨new, ?_, plays⟩
    rw [← told, List.append_assoc, List.append_assoc]
    exact List.perm_append_comm.append_left _
  abreast := by
    refine ⟨turns.attends, fun other waits => ?_, fun watch' other waits' waits => ?_⟩
    · exact turns.others _ (abreast.second other waits) fun watch here => (abreast.apart watch other here waits).symm
    · obtain ⟨watch, here, same⟩ := turns.stays watch' waits'
      rw [same]
      exact abreast.apart watch other here waits

/-- The second of two readers has its turn. -/
theorem right (abreast : r.Abreast a b) (turns : Turns retention r b b' r') : TurnBoth retention r a b a b' r' where
  plays := by
    obtain ⟨new, told, plays⟩ := turns.plays
    exact ⟨new, by rw [← told, List.append_assoc], plays⟩
  abreast := by
    refine ⟨fun watch waits => ?_, turns.attends, fun watch other' waits waits' => ?_⟩
    · exact turns.others _ (abreast.first watch waits) fun other here => abreast.apart watch other waits here
    · obtain ⟨other, here, same⟩ := turns.stays other' waits'
      rw [same]
      exact abreast.apart watch other waits here

/-- Time passes for both. -/
theorem of_goesOn (abreast : r.Abreast a b) (goesOn : GoesOn retention [] r [] r') :
    TurnBoth retention r a b a b r' where
  plays := ⟨[], by rw [List.append_nil], goesOn.playsOn⟩
  abreast := ⟨(Turns.of_goesOn goesOn abreast.first).attends, (Turns.of_goesOn goesOn abreast.second).attends,
    abreast.apart⟩

/-- The heartbeat of both is over. -/
theorem giveUp (abreast : r.Abreast a b) : TurnBoth retention r a b (.inl (overdue a)) (.inl (overdue b)) r :=
  have first := left abreast (.giveUp r a)
  first.trans (right first.abreast (.giveUp r b))

end TurnBoth

theorem receiveLate_turns (deadline fuel : Nat) {a b : Delivery ⊕ Watch} (abreast : r.Abreast a b) :
    let answer := receiveLate deadline fuel a b r
    TurnBoth retention r a b (.inl answer.1.1) (.inl answer.1.2) answer.2 := by
  fun_induction receiveLate deadline fuel a b r with
  | case1 | case2 => exact .giveUp abreast
  | case3 fuel a b r unheard after passed =>
      have waits : TurnBoth retention r a b a b _ :=
        .of_goesOn abreast (pass_goesOn deadline (fun r => r.stirs a || r.stirs b) r)
      rw [passed] at waits
      exact waits.trans (.giveUp waits.abreast)
  | case4 fuel a b r unheard after passed a' r' looksA b' r'' looksB ih =>
      have waits : TurnBoth retention r a b a b _ :=
        .of_goesOn abreast (pass_goesOn deadline (fun r => r.stirs a || r.stirs b) r)
      rw [passed] at waits
      have first : TurnBoth retention after _ _ _ _ _ := .left waits.abreast (lookIfAwake_turns waits.abreast.first)
      rw [looksA] at first
      have second : TurnBoth retention r' _ _ _ _ _ := .right first.abreast (lookIfAwake_turns first.abreast.second)
      rw [looksB] at second
      exact ((waits.trans first).trans second).trans (ih second.abreast)

/-- Turns that began with two readers waiting have given them what they are told in the end. -/
theorem TurnBoth.told {watch other : Watch} {x y : Delivery}
    (turns : TurnBoth retention r (.inr watch) (.inr other) (.inl x) (.inl y) r') :
    PlaysOn retention r [] (heard [x, y]) r' := by
  obtain ⟨new, all, plays⟩ := turns.plays
  rw [heard_cons]
  exact plays.perm all

/-- What two readers were told, if both were there. -/
def toldBoth : Option (Delivery × Delivery) → List Delivery
  | some (x, y) => [x, y]
  | none => []

theorem receiveBoth_plays {first second : String} (apart : first ≠ second) (r : Rehearsal) :
    PlaysOn retention r [] (heard (toldBoth (r.receiveBoth first second).1)) (r.receiveBoth first second).2 := by
  unfold receiveBoth
  split
  · next a b foundA foundB =>
    have abreast : r.Abreast (.inr ⟨first, a, 0⟩) (.inr ⟨second, b, 0⟩) := by
      refine ⟨?_, ?_, ?_⟩
      · rintro _ ⟨⟩
        exact mem_of_lookup foundA
      · rintro _ ⟨⟩
        exact mem_of_lookup foundB
      · rintro _ _ ⟨⟩ ⟨⟩
        exact apart
    have looks : TurnBoth retention r _ _ _ _ _ := .left abreast (glance_turns (abreast.first _ rfl))
    dsimp only at looks ⊢
    generalize r.glance first a = seen at looks ⊢
    obtain ⟨a', r₁⟩ := seen
    have looksToo : TurnBoth retention r₁ _ _ _ _ _ :=
      .right looks.abreast (glance_turns (looks.abreast.second _ rfl))
    dsimp only at looksToo ⊢
    generalize r₁.glance second b = seen at looksToo ⊢
    obtain ⟨b', r₂⟩ := seen
    have began := looks.trans looksToo
    dsimp only at began ⊢
    split
    · have one : TurnBoth retention r₂ _ _ _ _ _ := .left began.abreast (answerNow_turns began.abreast.first)
      have two : TurnBoth retention _ _ _ _ _ _ := .right one.abreast (answerNow_turns one.abreast.second)
      exact ((began.trans one).trans two).told
    · exact (began.trans (receiveLate_turns _ _ began.abreast)).told
  · exact (GoesOn.refl r).playsOn

end Rehearsal

end Gradebook.Jobs
