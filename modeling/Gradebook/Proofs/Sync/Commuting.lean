import Gradebook.Proofs.Sync.Idempotence
import Gradebook.Proofs.Sync.Schedule
import Gradebook.Proofs.Sync.Separate

/-! Refreshes side by side. Two refreshes over disjoint pupils share one world, where each counts how many of its pupils
it has behind it. Whatever one of them does leaves the world such as it is after some pupils of both were reconciled
since the start, so the other comes to what it would have come to alone. Hence neither the order of the two nor how
their steps are mixed makes a difference. -/

namespace Gradebook.Portal

theorem Responder.Steady.about {portal : Responder} (steady : portal.Steady) (pid : PupilId) :
    portal.SteadyAbout pid where
  academicYears earlier := steady.academicYears earlier [] pid
  reportingPeriods earlier := steady.reportingPeriods earlier [] pid
  reportingSubjects earlier := steady.reportingSubjects earlier [] pid
  columnsForSubjects earlier := steady.columnsForSubjects earlier [] pid
  marksheet earlier := steady.marksheet earlier [] pid

end Gradebook.Portal

namespace Gradebook.Sync

open Portal Attempt

namespace Plan

variable {ε α β γ δ : Type} {J : γ → δ → World → Prop} {last place : γ} {r : Except ε α} {p : Plan ε α}
variable {w : World} {x : α} {e : ε}

/-! ### Plans that come to the same beside others -/

/-- The plan goes from a place to a last one and comes to this, wherever others are. `J` tells which worlds there are
when the plan is at a place and the others at theirs, and each step leads to such a world. -/
inductive Leads (J : γ → δ → World → Prop) (last : γ) (r : Except ε α) : γ → Plan ε α → Prop where
  | ended : Leads J last r last (.ended r)
  | step {place next : γ} {act : World → World} {rest : World → Plan ε α}
      (keeps : ∀ others w, J place others w → J next others (act w))
      (later : ∀ others w, J place others w → Leads J last r next (rest w)) : Leads J last r place (.step act rest)

namespace Leads

theorem bind_ok {f : α → Plan ε β} {q : Except ε β} {goal : γ} (first : p.Leads J last (.ok x) place)
    (rest : (f x).Leads J goal q last) : (p >>= f).Leads J goal q place := by
  show (p.bind f).Leads J goal q place
  induction first with
  | ended => exact rest
  | step keeps _ ih => exact .step keeps ih

theorem bind_error {f : α → Plan ε β} (first : p.Leads J last (.error e) place) :
    (p >>= f).Leads J last (.error e) place := by
  show (p.bind f).Leads J last _ place
  induction first with
  | ended => exact .ended
  | step keeps _ ih => exact .step keeps ih

theorem atom {a : Attempt World ε α} (does : ∀ others w, J place others w → (a w).1 = r ∧ J last others (a w).2) :
    (Plan.atom a).Leads J last r place := by
  refine .step (fun others w h => (does others w h).2) fun others w h => ?_
  rw [(does others w h).1]
  exact .ended

/-- Whoever only makes calls stays at the place. -/
theorem of_comes (comes : p.Comes r) (quiet : ∀ others, Quiet (J place others)) : p.Leads J place r place := by
  induction comes with
  | ended => exact .ended
  | asks calls _ ih =>
      refine .step (fun others w h => ?_) fun _ w _ => ih w
      obtain ⟨made, does⟩ := calls w
      rw [does]
      exact quiet others w _ rfl rfl h

/-- With the world to itself such a plan comes to the same. -/
theorem run {others : δ} (leads : p.Leads J last r place) (h : J place others w) :
    (p.run w).1 = r ∧ J last others (p.run w).2 := by
  induction leads generalizing w with
  | ended => exact ⟨rfl, h⟩
  | step keeps _ ih => exact ih others w h (keeps others w h)

end Leads

/-- The plan goes one place on, or fails where it is. -/
def Advances (J : Nat → δ → World → Prop) (i : Nat) (p : Plan ε α) : Prop :=
  (∃ x, p.Leads J (i + 1) (.ok x) i) ∨ ∃ e, p.Leads J i (.error e) i

theorem Leads.advances {J : Nat → δ → World → Prop} {i : Nat} {f : α → Plan ε β} (first : p.Leads J i (.ok x) i)
    (rest : (f x).Advances J i) : (p >>= f).Advances J i := by
  rcases rest with ⟨y, goes⟩ | ⟨e, fails⟩
  · exact .inl ⟨y, first.bind_ok goes⟩
  · exact .inr ⟨e, first.bind_ok fails⟩

end Plan

/-! ### Two errands -/

section Beside

variable {γ δ : Type} {J : γ → δ → World → Prop} {mine : γ} {theirs : δ} {one two : Errand}
variable {r : Except Fault one.Reply} {q : Except Fault two.Reply} {o : Office}

/-- Two errands on their way, each at a place of its own, to what is foretold. -/
inductive Beside (one two : Errand) (J : γ → δ → World → Prop) (mine : γ) (theirs : δ) (r : Except Fault one.Reply)
    (q : Except Fault two.Reply) : Office → Prop where
  | amid {w : World} {place : γ} {other : δ} {p : Plan Fault one.Reply} {p' : Plan Fault two.Reply}
      (here : J place other w) (first : p.Leads J mine r place)
      (second : p'.Leads (fun other place => J place other) theirs q other) :
      Beside one two J mine theirs r q ⟨w, [⟨one, p⟩, ⟨two, p'⟩]⟩

namespace Beside

/-- Whichever of the two goes on, both stay on their way. -/
theorem advance (h : Beside one two J mine theirs r q o) (turn : Nat) :
    Beside one two J mine theirs r q (o.advance turn) := by
  obtain ⟨here, first, second⟩ := h
  match turn with
  | 0 =>
      cases first with
      | ended => exact .amid here .ended second
      | step keeps later => exact .amid (keeps _ _ here) (later _ _ here) second
  | 1 =>
      cases second with
      | ended => exact .amid here first .ended
      | step keeps later => exact .amid (keeps _ _ here) first (later _ _ here)
  | turn + 2 => exact .amid here first second

theorem turns (h : Beside one two J mine theirs r q o) (places : List Nat) :
    Beside one two J mine theirs r q (o.turns places) := by
  induction places generalizing o with
  | nil => exact h
  | cons turn rest ih => exact ih (h.advance turn)

/-- When both have ended, both have come to what was foretold. -/
theorem ended (h : Beside one two J mine theirs r q o) {r' : Except Fault one.Reply} {q' : Except Fault two.Reply}
    (ended : o.running = [⟨one, .ended r'⟩, ⟨two, .ended q'⟩]) : r' = r ∧ q' = q ∧ J mine theirs o.world := by
  obtain ⟨here, first, second⟩ := h
  cases ended
  cases first
  cases second
  exact ⟨rfl, rfl, here⟩

/-- With turns enough both end. -/
theorem ends (h : Beside one two J mine theirs r q o) {m n : Nat} {places : List Nat} {p : Plan Fault one.Reply}
    {p' : Plan Fault two.Reply} (begins : o.running = [⟨one, p⟩, ⟨two, p'⟩]) (within : p.Within m)
    (withinToo : p'.Within n) (enough : m ≤ places.count 0) (enoughToo : n ≤ places.count 1) :
    (o.turns places).running = [⟨one, .ended r⟩, ⟨two, .ended q⟩] := by
  obtain ⟨r', ended⟩ := Office.ends_of_turns within (by rw [begins]; rfl) enough
  obtain ⟨q', endedToo⟩ := Office.ends_of_turns withinToo (by rw [begins]; rfl) enoughToo
  have amid := h.turns places
  revert ended endedToo
  generalize o.turns places = after at amid
  obtain ⟨here, first, second⟩ := amid
  intro ended endedToo
  cases ended
  cases endedToo
  cases first
  cases second
  rfl

end Beside

end Beside

/-! ### One refresh beside another -/

/-- So many pupils of one range and so many of another were reconciled since the start. -/
def Amid (start : World) (solo : PupilId → Store) (mine theirs : PupilRange) (i j : Nat) (w : World) : Prop :=
  Halfway start solo (mine.take i ++ theirs.take j) w

variable {service : Service} {purge : Bool} {start w : World} {solo : PupilId → Store} {mine theirs : PupilRange}
variable {i j : Nat} {pid : PupilId} {known : Option Student}

theorem amid_swap : Amid start solo mine theirs i j w ↔ Amid start solo theirs mine j i w := by
  unfold Amid
  constructor <;> exact fun h => h.congr fun pid => by simp only [List.mem_append, or_comm]

theorem quiet_amid (start : World) (solo : PupilId → Store) (mine theirs : PupilRange) (i j : Nat) :
    Plan.Quiet (Amid start solo mine theirs i j) :=
  Halfway.quiet start solo _

/-- What reconciling a pupil leaves is what its transaction leaves, for the calls before it do not change the store. -/
theorem reconcile_store_of_heard (purge : Bool)
    (hheard : heard (fetchStudent service.portal service.settings.currentAcademicYear pid w).1 = some known) :
    (service.reconcile purge pid w).2.store = (transact (reconcileWith pid purge known) w).2.store := by
  obtain ⟨calls, asks, -⟩ := fetchStudent_asks service.portal service.settings.currentAcademicYear pid w
  rw [reconcile_of_heard purge hheard, asks]
  exact (transact_congr (v := w.having calls) (w := w) _ rfl rfl).2

/-- What a refresh over a range needs where others reconcile another one: `solo` tells what each of its pupils would
have come to at the start. -/
structure Side (service : Service) (purge : Bool) (start : World) (solo : PupilId → Store) (mine theirs : PupilRange) :
    Prop where
  steady : service.portal.Steady
  references : start.store.References
  apart : ∀ pid ∈ mine.toList, pid ∉ theirs.toList
  alone : ∀ pid ∈ mine.toList, solo pid = (service.reconcile purge pid start).2.store

namespace Side

theorem transact_advances (side : Side service purge start solo mine theirs) (fits : mine.Fits) (hi : i < mine.count)
    (own : ∀ student ∈ known, student.pid = mine.get i)
    (alone : solo (mine.get i) = (transact (reconcileWith (mine.get i) purge known) start).2.store) :
    (Plan.atom (transact (reconcileWith (mine.get i) purge known))).Advances (Amid start solo mine theirs) i := by
  have new (j : Nat) : mine.get i ∉ mine.take i ++ theirs.take j := by
    rw [List.mem_append, not_or]
    refine ⟨PupilRange.get_not_mem_take fits hi, fun there => ?_⟩
    exact side.apart _ (PupilRange.get_mem_toList hi) (PupilRange.take_subset_toList theirs j there)
  cases comes : (transact (reconcileWith (mine.get i) purge known) start).1 with
  | ok action =>
      refine .inl ⟨action, .atom fun j w h => ?_⟩
      obtain ⟨same, succeeds, -⟩ := Halfway.transact h side.references (new j) own alone
      refine ⟨same.trans comes, (succeeds action (same.trans comes)).congr fun pid => ?_⟩
      rw [List.mem_cons, List.mem_append, List.mem_append, PupilRange.mem_take_succ hi, or_assoc]
  | error fault =>
      refine .inr ⟨fault, .atom fun j w h => ?_⟩
      obtain ⟨same, -, fails⟩ := Halfway.transact h side.references (new j) own alone
      exact ⟨same.trans comes, fails fault (same.trans comes)⟩

/-- Reconciling the next pupil comes to what it would have come to at the start. -/
theorem reconcile_advances (side : Side service purge start solo mine theirs) (fits : mine.Fits) (hi : i < mine.count) :
    (Plan.reconcile service purge (mine.get i)).Advances (Amid start solo mine theirs) i := by
  have fetches : Plan.Leads (Amid start solo mine theirs) i (.ok _ : Except Fault (Except Portal.Error Student)) i _ :=
    .of_comes
      (Plan.fetchStudent_comes (side.steady.about (mine.get i)) service.settings.currentAcademicYear start).outcome
      (quiet_amid start solo mine theirs i)
  have follows (known : Option Student)
      (hheard : heard (fetchStudent service.portal service.settings.currentAcademicYear (mine.get i) start).1 =
        some known) :=
    side.transact_advances fits hi (own_of_heard hheard)
      ((side.alone _ (PupilRange.get_mem_toList hi)).trans (reconcile_store_of_heard purge hheard))
  unfold Plan.reconcile
  cases told : (fetchStudent service.portal service.settings.currentAcademicYear (mine.get i) start).1 with
  | ok student =>
      rw [told] at fetches follows
      exact fetches.advances (follows (some student) rfl)
  | error e =>
      rw [told] at fetches follows
      refine fetches.advances ?_
      by_cases missing : e.isNotFound = true
      · simp only [if_pos missing]
        exact follows none (if_pos missing)
      · simp only [if_neg missing]
        exact .inr ⟨_, .ended⟩

/-- Each refresh comes to a single end. -/
theorem refreshFrom_leads (side : Side service purge start solo mine theirs) (fits : mine.Fits)
    (cancellation : Cancellation) {remaining done : Nat} (summary : Summary) (within : done + remaining ≤ mine.count) :
    ∃ last r, (Plan.refreshFrom service purge mine cancellation done summary remaining).Leads
      (Amid start solo mine theirs) last r done := by
  induction remaining generalizing done summary with
  | zero => exact ⟨done, .ok summary, .ended⟩
  | succ remaining ih =>
      have quiet := quiet_amid start solo mine theirs
      unfold Plan.refreshFrom
      cases stops : cancellation done with
      | true =>
          refine ⟨done, .error (.cancelled "refresh students"), .bind_error (.atom fun j w h => ?_)⟩
          rw [checkpoint_apply, if_pos stops]
          exact ⟨rfl, h⟩
      | false =>
          have passes : (Plan.atom (checkpoint "refresh students" cancellation done)).Leads
              (Amid start solo mine theirs) done (.ok ()) done := by
            refine .atom fun j w h => ?_
            rw [checkpoint_apply, if_neg (by simp [stops])]
            exact ⟨rfl, quiet done j w _ rfl rfl h⟩
          rcases side.reconcile_advances fits (by omega : done < mine.count) with ⟨action, reconciles⟩ | ⟨fault, fails⟩
          · obtain ⟨last, r, later⟩ := ih (action.count summary) (by omega : done + 1 + remaining ≤ mine.count)
            have reports : (Plan.atom (note (.reported ("pid " ++ (mine.get done).text ++ ": " ++
                action.word)) : Session Unit)).Leads (Amid start solo mine theirs) (done + 1) (.ok ()) (done + 1) :=
              .atom fun j w h => ⟨rfl, quiet (done + 1) j w _ rfl rfl h⟩
            exact ⟨last, r, passes.bind_ok (reconciles.bind_ok (reports.bind_ok later))⟩
          · exact ⟨done, .error fault, passes.bind_ok fails.bind_error⟩

theorem refreshStudents_leads {request : RefreshStudents}
    (side : Side service request.purge start solo request.range theirs) (cancellation : Cancellation) :
    ∃ last r, (Plan.refreshStudents service request cancellation).Leads (Amid start solo request.range theirs)
      last r 0 := by
  unfold Plan.refreshStudents
  by_cases fits : request.range.Fits
  · rw [RefreshStudents.pupils_of_fits fits]
    exact side.refreshFrom_leads fits cancellation {} (by omega)
  · rw [RefreshStudents.pupils_of_not_fits fits]
    exact ⟨0, _, .ended⟩

end Side

/-! ### Turns enough -/

namespace Plan

theorem reconcile_within (service : Service) (purge : Bool) (pid : PupilId) :
    (reconcile service purge pid).Within 6 := by
  unfold reconcile
  refine .bind (m := 5) (n := 1) (fetchStudent_within _ _ pid).outcome fun answer => ?_
  cases answer with
  | ok student => exact .atom _
  | error e =>
      simp only
      split
      · exact .atom _
      · exact .ended _

theorem refreshFrom_within (service : Service) (purge : Bool) (pupils : PupilRange) (cancellation : Cancellation)
    (remaining done : Nat) (summary : Summary) :
    (refreshFrom service purge pupils cancellation done summary remaining).Within (8 * remaining) := by
  induction remaining generalizing done summary with
  | zero => exact .ended _
  | succ remaining ih =>
      unfold refreshFrom
      refine .mono (m := 1 + (6 + (1 + 8 * remaining))) ?_ (by omega)
      exact .bind (.atom _) fun _ => .bind (reconcile_within service purge _) fun action =>
        .bind (.atom _) fun _ => ih (done + 1) (action.count summary)

/-- A refresh takes at most eight steps for each pupil: a checkpoint, five calls, a transaction and a report. -/
theorem refreshStudents_within (service : Service) (request : RefreshStudents) (cancellation : Cancellation) :
    (refreshStudents service request cancellation).Within (8 * request.count.toNat) := by
  unfold refreshStudents
  cases hpupils : request.pupils with
  | ok pupils =>
      rw [← RefreshStudents.count_of_pupils hpupils]
      exact refreshFrom_within service request.purge pupils cancellation pupils.count 0 {}
  | error fault => exact .ended _

end Plan

/-- **Refreshes over disjoint pupils commute.** Whatever is requested of whatever tables in which links join what exists,
and however often and whenever the two are cancelled, as long as the portal keeps to its answers: each of the two comes
to the same whether it comes first or second, or goes on step by step while the other does. In the end there are the
same students, who look the same and take subjects of the same codes, the same codes are known, and the same marks are
stored. With turns enough both end. -/
theorem refreshes_commute (service : Service) (steady : service.portal.Steady) (first second : RefreshStudents)
    (apart : ∀ pid ∈ first.range.toList, pid ∉ second.range.toList) (cancellation cancellationToo : Cancellation)
    {start : World} (references : start.store.References) :
    let one := service.refreshStudents first cancellation start
    let two := service.refreshStudents second cancellationToo one.2
    let ahead := service.refreshStudents second cancellationToo start
    let behind := service.refreshStudents first cancellation ahead.2
    let begun := (Office.assign { world := start } service (.refreshStudents first cancellation)).assign service
      (.refreshStudents second cancellationToo)
    (ahead.1 = two.1 ∧ behind.1 = one.1 ∧ Match start.store two.2.store behind.2.store) ∧
    ∀ places,
      (8 * first.count.toNat ≤ places.count 0 → 8 * second.count.toNat ≤ places.count 1 →
        ∃ r q, (begun.turns places).running =
          [⟨.refreshStudents first cancellation, .ended r⟩, ⟨.refreshStudents second cancellationToo, .ended q⟩]) ∧
      ∀ r q, (begun.turns places).running =
          [⟨.refreshStudents first cancellation, .ended r⟩, ⟨.refreshStudents second cancellationToo, .ended q⟩] →
        r = one.1 ∧ q = two.1 ∧ Match start.store two.2.store (begun.turns places).world.store := by
  intro one two ahead behind begun
  let solo (pid : PupilId) : Store :=
    if pid ∈ first.range.toList then (service.reconcile first.purge pid start).2.store
    else (service.reconcile second.purge pid start).2.store
  have side : Side service first.purge start solo first.range second.range :=
    ⟨steady, references, apart, fun pid hpid => if_pos hpid⟩
  have sideToo : Side service second.purge start solo second.range first.range :=
    ⟨steady, references, fun pid hpid there => apart pid there hpid,
      fun pid hpid => if_neg fun there => apart pid there hpid⟩
  obtain ⟨last, r, leads⟩ := side.refreshStudents_leads cancellation
  obtain ⟨lastToo, q, leadsToo⟩ := sideToo.refreshStudents_leads cancellationToo
  rw [show Amid start solo second.range first.range = fun j i => Amid start solo first.range second.range i j by
    funext j i w
    exact propext amid_swap] at leadsToo
  have fresh : Amid start solo first.range second.range 0 0 start := .none references solo
  have goes {w : World} {j : Nat} (h : Amid start solo first.range second.range 0 j w) := leads.run h
  have goesToo {w : World} {i : Nat} (h : Amid start solo first.range second.range i 0 w) := leadsToo.run h
  rw [Plan.run_refreshStudents] at goes goesToo
  obtain ⟨hone, amid⟩ := goes fresh
  obtain ⟨htwo, done⟩ := goesToo amid
  obtain ⟨hahead, amidToo⟩ := goesToo fresh
  obtain ⟨hbehind, doneToo⟩ := goes amidToo
  have beside : Beside (.refreshStudents first cancellation) (.refreshStudents second cancellationToo)
      (Amid start solo first.range second.range) last lastToo r q begun := .amid fresh leads leadsToo
  refine ⟨⟨hahead.trans htwo.symm, hbehind.trans hone.symm, done.store.same doneToo.store⟩, fun places => ⟨?_, ?_⟩⟩
  · intro enough enoughToo
    exact ⟨r, q, beside.ends rfl (Plan.refreshStudents_within service first cancellation)
      (Plan.refreshStudents_within service second cancellationToo) enough enoughToo⟩
  · intro r' q' ended
    obtain ⟨rfl, rfl, after⟩ := (beside.turns places).ended ended
    exact ⟨hone.symm, htwo.symm, done.store.same after.store⟩

/-- A portal that calls one subject by another name for each pupil, of whom two attend. -/
def choirPortal : Responder :=
  { turnoverPortal with reportingSubjects := fun _ pid _ _ => .ok [{ code := "CH", name := "Choir " ++ pid.text }] }

def choirService : Service := ⟨choirPortal, { currentAcademicYear := 2024 }⟩

/-- What two refreshes leave, one after the other. -/
def choirWorld : World :=
  (choirService.refreshStudents ⟨8, 2, true⟩ .never
    (choirService.refreshStudents ⟨6, 2, true⟩ .never turnoverWorld).2).2

/-- The two refreshes on their way. -/
def choirOffice : Office :=
  (Office.assign { world := turnoverWorld } choirService (.refreshStudents ⟨6, 2, true⟩ .never)).assign choirService
    (.refreshStudents ⟨8, 2, true⟩ .never)

/-- Two purges, step by step in turns: one skips a pupil and updates one while the other deletes and creates one. Both
give a pupil the subject that nobody took before. -/
theorem refreshes_commute_in_turns : choirPortal.Steady ∧ turnoverWorld.store.References ∧
    (∀ pid ∈ (⟨6, 2, true⟩ : RefreshStudents).range.toList,
      pid ∉ (⟨8, 2, true⟩ : RefreshStudents).range.toList) ∧
    (choirOffice.turns (List.replicate 16 [1, 0]).flatten).running =
      [⟨.refreshStudents ⟨6, 2, true⟩ .never, .ended (.ok { updated := 1, skipped := 1 })⟩,
        ⟨.refreshStudents ⟨8, 2, true⟩ .never, .ended (.ok { created := 1, deleted := 1 })⟩] ∧
    Match turnoverWorld.store choirWorld.store
      (choirOffice.turns (List.replicate 16 [1, 0]).flatten).world.store := by
  have built : Store.Built turnoverWorld.store :=
    .perform (.createStudent _) (.perform (.createStudent sampleStudent) (.empty .epoch))
  have steady : choirPortal.Steady := by constructor <;> intros <;> rfl
  have range : (⟨6, 2, true⟩ : RefreshStudents).range.toList = [6, 7] := by decide +kernel
  have rangeToo : (⟨8, 2, true⟩ : RefreshStudents).range.toList = [8, 9] := by decide +kernel
  have apart : ∀ pid ∈ (⟨6, 2, true⟩ : RefreshStudents).range.toList,
      pid ∉ (⟨8, 2, true⟩ : RefreshStudents).range.toList := by
    rw [range, rangeToo]
    simp
  obtain ⟨-, mixes⟩ := refreshes_commute choirService steady ⟨6, 2, true⟩ ⟨8, 2, true⟩ apart .never .never
    built.sound.references
  obtain ⟨ends, same⟩ := mixes (List.replicate 16 [1, 0]).flatten
  obtain ⟨r, q, ended⟩ := ends (by decide +kernel) (by decide +kernel)
  obtain ⟨hone, htwo, matching⟩ := same r q ended
  have skips : (choirService.refreshStudents ⟨6, 2, true⟩ .never turnoverWorld).1 =
      .ok { updated := 1, skipped := 1 } := by decide +kernel
  have deletes : (choirService.refreshStudents ⟨8, 2, true⟩ .never
      (choirService.refreshStudents ⟨6, 2, true⟩ .never turnoverWorld).2).1 =
      .ok { created := 1, deleted := 1 } := by decide +kernel
  rw [hone.trans skips, htwo.trans deletes] at ended
  refine ⟨steady, built.sound.references, apart, ?_⟩
  unfold choirOffice choirWorld
  exact ⟨ended, matching⟩

end Gradebook.Sync
