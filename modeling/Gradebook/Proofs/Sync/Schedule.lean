import Gradebook.Proofs.Sync.Interleaving

/-! A plan among others. What a plan comes to when others work between its steps is told by the worlds that it found at
its steps. Some plans come to the same whatever they find: they only make calls, and the portal keeps to its answers.
Every plan that is given enough turns ends. -/

namespace Gradebook.Portal

/-- A portal that keeps to its answers about one pupil. -/
structure Responder.SteadyAbout (portal : Responder) (pid : PupilId) : Prop where
  academicYears : ∀ earlier, portal.academicYears earlier pid = portal.academicYears [] pid
  reportingPeriods : ∀ earlier years, portal.reportingPeriods earlier pid years = portal.reportingPeriods [] pid years
  reportingSubjects : ∀ earlier years periods,
    portal.reportingSubjects earlier pid years periods = portal.reportingSubjects [] pid years periods
  columnsForSubjects : ∀ earlier years periods subjects,
    portal.columnsForSubjects earlier pid years periods subjects =
      portal.columnsForSubjects [] pid years periods subjects
  marksheet : ∀ earlier query, portal.marksheet earlier pid query = portal.marksheet [] pid query

end Gradebook.Portal

namespace Gradebook.Sync

open Portal Attempt

namespace Plan

variable {ε ε' α β : Type} {p : Plan ε α} {f : α → Plan ε β} {r : Except ε α} {q : Except ε β} {x : α} {e : ε}

/-! ### Plans that come to the same whatever they find -/

/-- The plan only makes calls, and this is what it comes to. -/
inductive Comes (r : Except ε α) : Plan ε α → Prop where
  | ended : Comes r (.ended r)
  | asks {act : World → World} {next : World → Plan ε α} (calls : ∀ w, ∃ calls, act w = w.having calls)
      (rest : ∀ w, Comes r (next w)) : Comes r (.step act next)

namespace Comes

theorem bind_ok (first : p.Comes (.ok x)) (rest : (f x).Comes q) : (p >>= f).Comes q := by
  show (p.bind f).Comes q
  induction first with
  | ended => exact rest
  | asks calls _ ih => exact .asks calls ih

theorem bind_error (first : p.Comes (.error e)) : (p >>= f).Comes (.error e : Except ε β) := by
  show (p.bind f).Comes _
  induction first with
  | ended => exact .ended
  | asks calls _ ih => exact .asks calls ih

/-- Plans that come to something come to something one after another. -/
theorem exists_bind (first : ∃ r, p.Comes r) (rest : ∀ x, ∃ q, (f x).Comes q) : ∃ q, (p >>= f).Comes q := by
  obtain ⟨e | x, comes⟩ := first
  · exact ⟨.error e, comes.bind_error⟩
  · obtain ⟨q, later⟩ := rest x
    exact ⟨q, comes.bind_ok later⟩

theorem outcome (comes : p.Comes r) : (p.outcome : Plan ε' (Except ε α)).Comes (.ok r) := by
  induction comes with
  | ended => exact .ended
  | asks calls _ ih => exact .asks calls ih

theorem run (comes : p.Comes r) (w : World) : (p.run w).1 = r := by
  induction comes generalizing w with
  | ended => rfl
  | asks calls _ ih => exact ih w _

/-- Whatever calls keep, such a plan keeps. -/
theorem ensures {P : World → Prop} (comes : p.Comes r) (quiet : Quiet P) : p.Ensures P fun x => r = .ok x := by
  induction comes with
  | ended => exact .ofExcept fun x told => told
  | asks calls _ ih =>
      refine .step (fun w hw => ?_) fun w _ => ih w
      obtain ⟨made, does⟩ := calls w
      rw [does]
      exact quiet w _ rfl rfl hw

end Comes

theorem comes_ask {γ : Type} {call : Call} {answer : List Call → Except Portal.Error γ}
    (steady : ∀ earlier, answer earlier = answer []) : ∃ r, (atom (ask call answer)).Comes r := by
  refine ⟨answer [], .asks (fun w => ⟨[call], rfl⟩) fun w => ?_⟩
  rw [ask_apply, steady w.calls]
  exact .ended

/-- A portal that keeps to its answers about a pupil always describes the same pupil. -/
theorem fetchStudent_comes {portal : Responder} {pid : PupilId} (steady : portal.SteadyAbout pid) (current : Year)
    (w : World) : (fetchStudent portal current pid).Comes (Sync.fetchStudent portal current pid w).1 := by
  have comes : ∃ r, (fetchStudent portal current pid).Comes r := by
    unfold fetchStudent
    refine Comes.exists_bind (comes_ask fun earlier => steady.academicYears earlier) fun years => ?_
    refine Comes.exists_bind (comes_ask fun earlier => steady.reportingPeriods earlier years) fun periods => ?_
    refine Comes.exists_bind (comes_ask fun earlier => steady.reportingSubjects earlier years periods)
      fun subjects => ?_
    refine Comes.exists_bind (comes_ask fun earlier => steady.columnsForSubjects earlier years periods subjects)
      fun columns => ?_
    refine Comes.exists_bind (comes_ask fun earlier => steady.marksheet earlier _) fun sheet => ?_
    exact ⟨_, .ended⟩
  obtain ⟨r, comes⟩ := comes
  rw [← run_fetchStudent, comes.run w]
  exact comes

/-! ### What a plan found -/

/-- The worlds that a plan found at its steps, and what it came to. -/
inductive Among : Plan ε α → List World → Except ε α → Prop where
  | ended (r : Except ε α) : Among (.ended r) [] r
  | step {act : World → World} {next : World → Plan ε α} {w : World} {ws : List World} {r : Except ε α}
      (rest : Among (next w) ws r) : Among (.step act next) (w :: ws) r

theorem among_atom {a : Attempt World ε α} {ws : List World} (among : (atom a).Among ws r) :
    ∃ w, ws = [w] ∧ r = (a w).1 := by
  cases among with
  | step rest =>
      cases rest
      exact ⟨_, rfl, rfl⟩

theorem among_bind {ws : List World} (among : (p >>= f).Among ws q) :
    (∃ e, p.Among ws (.error e) ∧ q = .error e) ∨
      ∃ x before after, ws = before ++ after ∧ p.Among before (.ok x) ∧ (f x).Among after q := by
  change (p.bind f).Among ws q at among
  induction p generalizing ws with
  | ended r =>
      cases r with
      | ok x => exact .inr ⟨x, [], ws, rfl, .ended _, among⟩
      | error e =>
          cases among
          exact .inl ⟨e, .ended _, rfl⟩
  | step act next ih =>
      cases among with
      | step rest =>
          rcases ih _ rest with ⟨e, fails, rfl⟩ | ⟨x, before, after, rfl, first, later⟩
          · exact .inl ⟨e, .step fails, rfl⟩
          · exact .inr ⟨x, _ :: before, after, rfl, .step first, later⟩

theorem Comes.among {ws : List World} {r' : Except ε α} (comes : p.Comes r) (among : p.Among ws r') : r' = r := by
  induction comes generalizing ws with
  | ended =>
      cases among
      rfl
  | asks _ _ ih =>
      cases among with
      | step rest => exact ih _ rest

/-! ### Plans that end -/

/-- The plan ends within a number of steps. -/
inductive Within : Nat → Plan ε α → Prop where
  | ended {n : Nat} (r : Except ε α) : Within n (.ended r)
  | step {n : Nat} {act : World → World} {next : World → Plan ε α} (rest : ∀ w, Within n (next w)) :
      Within (n + 1) (.step act next)

namespace Within

variable {m n : Nat}

theorem mono (within : p.Within m) (le : m ≤ n) : p.Within n := by
  induction within generalizing n with
  | ended r => exact .ended r
  | step _ ih =>
      obtain ⟨k, rfl⟩ : ∃ k, n = k + 1 := ⟨n - 1, by omega⟩
      exact .step fun w => ih w (by omega)

theorem atom (a : Attempt World ε α) : (Plan.atom a).Within 1 := .step fun _ => .ended _

theorem bind (first : p.Within m) (rest : ∀ x, (f x).Within n) : (p >>= f).Within (m + n) := by
  show (p.bind f).Within (m + n)
  induction first with
  | ended r =>
      cases r with
      | ok x => exact (rest x).mono (by omega)
      | error e => exact .ended _
  | @step k _ _ _ ih =>
      rw [show k + 1 + n = k + n + 1 by omega]
      exact .step ih

theorem outcome (within : p.Within n) : (p.outcome : Plan ε' (Except ε α)).Within n := by
  induction within with
  | ended r => exact .ended _
  | step _ ih => exact .step ih

end Within

theorem fetchStudent_within (portal : Responder) (current : Year) (pid : PupilId) :
    (fetchStudent portal current pid).Within 5 := by
  unfold fetchStudent
  refine .bind (m := 1) (n := 4) (.atom _) fun years => ?_
  refine .bind (m := 1) (n := 3) (.atom _) fun periods => ?_
  refine .bind (m := 1) (n := 2) (.atom _) fun subjects => ?_
  refine .bind (m := 1) (n := 1) (.atom _) fun columns => ?_
  exact .bind (m := 1) (n := 0) (.atom _) fun sheet => .ended _

theorem findStudent_within (service : Service) (pid : PupilId) : (findStudent service pid).Within 7 := by
  unfold findStudent
  refine .bind (m := 1) (n := 6) (.atom _) fun stored => ?_
  cases stored with
  | some student => exact (Within.bind (m := 1) (n := 0) (.atom _) fun _ => .ended _).mono (by decide)
  | none =>
      refine .bind (m := 5) (n := 1) (fetchStudent_within _ _ pid).outcome fun answer => ?_
      cases answer with
      | error e => exact .ended _
      | ok student =>
          simp only
          split
          · exact .atom _
          · exact .ended _

end Plan

/-! ### Turns -/

namespace Office

variable {P : World → Prop} {o : Office} {errand : Errand} {plan : Plan Fault errand.Reply} {place other : Nat}

/-- The worlds that the errand at a place finds at its steps while errands take turns. -/
def seen (o : Office) (place : Nat) : List Nat → List World
  | [] => []
  | turn :: rest =>
    match o.running[turn]? with
    | some ⟨_, .step _ _⟩ =>
      if turn = place then o.world :: (o.advance turn).seen place rest else (o.advance turn).seen place rest
    | _ => (o.advance turn).seen place rest

theorem advance_of_step {act : World → World} {next : World → Plan Fault errand.Reply}
    (here : o.running[place]? = some ⟨errand, .step act next⟩) :
    o.advance place = ⟨act o.world, o.running.set place ⟨errand, next o.world⟩⟩ := by
  unfold advance
  rw [here]

/-- Who is not on turn stays where it is. -/
theorem advance_other (apart : place ≠ other) : (o.advance place).running[other]? = o.running[other]? := by
  unfold advance
  split
  · exact List.getElem?_set_ne apart
  · rfl

theorem advance_of_ended {r : Except Fault errand.Reply} (here : o.running[place]? = some ⟨errand, .ended r⟩) :
    o.advance place = o := by
  unfold advance
  rw [here]

theorem advance_step_here {act : World → World} {next : World → Plan Fault errand.Reply}
    (here : o.running[place]? = some ⟨errand, .step act next⟩) :
    (o.advance place).running[place]? = some ⟨errand, next o.world⟩ := by
  obtain ⟨inside, -⟩ := List.getElem?_eq_some_iff.mp here
  rw [advance_of_step here, List.getElem?_set_self inside]

theorem seen_other {places : List Nat} (apart : other ≠ place) :
    o.seen place (other :: places) = (o.advance other).seen place places := by
  rw [seen]
  split
  · exact if_neg apart
  · rfl

/-- Who has ended stays so. -/
theorem turns_of_ended {r : Except Fault errand.Reply} (here : o.running[place]? = some ⟨errand, .ended r⟩)
    (places : List Nat) : (o.turns places).running[place]? = some ⟨errand, .ended r⟩ := by
  induction places generalizing o with
  | nil => exact here
  | cons turn rest ih =>
      by_cases own : turn = place
      · subst own
        exact ih (by rw [advance_of_ended here, here])
      · exact ih (by rw [advance_other own, here])

theorem seen_of_ended {r : Except Fault errand.Reply} {places : List Nat}
    (here : o.running[place]? = some ⟨errand, .ended r⟩) : o.seen place places = [] := by
  induction places generalizing o with
  | nil => rfl
  | cons turn rest ih =>
      by_cases own : turn = place
      · subst own
        unfold seen
        rw [here]
        exact ih (by rw [advance_of_ended here, here])
      · rw [seen_other own]
        exact ih (by rw [advance_other own, here])

/-- **What an errand comes to is told by what it finds.** -/
theorem among_seen {places : List Nat} {r : Except Fault errand.Reply}
    (here : o.running[place]? = some ⟨errand, plan⟩)
    (ended : (o.turns places).running[place]? = some ⟨errand, .ended r⟩) : plan.Among (o.seen place places) r := by
  induction places generalizing o plan with
  | nil =>
      change o.running[place]? = _ at ended
      rw [here] at ended
      cases ended
      exact .ended r
  | cons turn rest ih =>
      by_cases own : turn = place
      · subst own
        cases plan with
        | ended r' =>
            rw [turns_of_ended here] at ended
            cases ended
            rw [seen_of_ended here]
            exact .ended r
        | step act next =>
            unfold seen
            rw [here]
            simp only [if_true]
            exact .step (ih (advance_step_here here) ended)
      · rw [seen_other own]
        exact ih (by rw [advance_other own, here]) ended

/-- Every world that an errand finds keeps the rule. -/
theorem Holds.of_mem_seen {places : List Nat} {w : World} (h : o.Holds P) (found : w ∈ o.seen place places) : P w := by
  induction places generalizing o with
  | nil => cases found
  | cons turn rest ih =>
      unfold seen at found
      split at found
      · split at found
        · rcases List.mem_cons.mp found with rfl | later
          · exact h.world
          · exact ih (h.advance turn) later
        · exact ih (h.advance turn) found
      · exact ih (h.advance turn) found

/-- **Whoever has turns enough ends.** -/
theorem ends_of_turns {n : Nat} {places : List Nat} (within : plan.Within n)
    (here : o.running[place]? = some ⟨errand, plan⟩) (enough : n ≤ places.count place) :
    ∃ r, (o.turns places).running[place]? = some ⟨errand, .ended r⟩ := by
  induction places generalizing o n plan with
  | nil =>
      rw [List.count_nil, Nat.le_zero] at enough
      subst enough
      cases within with
      | ended r => exact ⟨r, here⟩
  | cons turn rest ih =>
      by_cases own : turn = place
      · subst own
        rw [List.count_cons_self] at enough
        cases within with
        | ended r => exact ⟨r, turns_of_ended here _⟩
        | step later => exact ih (later o.world) (advance_step_here here) (by omega)
      · rw [List.count_cons_of_ne own] at enough
        exact ih within (by rw [advance_other own, here]) enough

end Office

end Gradebook.Sync
