import PollingAssertions.Proofs.Polling.Lockstep

/-!
# Runs that part

Two runs start at the same point and are the same run, step by step, until
something makes them part. After that nothing is known of them but their fate:
what is true of a run that has parted for as long as it goes on, and how it
can end. It is enough to know the fate of one of the two.

Lockstep compares runs that want different things and are never equal. Here the
runs are equal in every respect, worlds and journals included, up to the step
in which they part.

## Main definitions

* `Fate` — what is known of a run that has parted.
* `Polling.Together` — two steps do the same, or the runs part.
* `Keeps` — what is true of the world stays true in given surroundings.
* `Polling.recess`, `Polling.wake` — what a round does after its attempt, and after its
  pause.

## Main results

* `Polling.Together.bind` — steps put together.
* `Polling.Together.rounds` — from one round to any number of rounds.
* `Polling.lasts_within` — a round keeps what its surroundings keep.
* `Polling.round_together`, `Poller.rounds_together` — runs in surroundings that
  differ only in what an attempt comes to.
-/

namespace PollingAssertions

variable {σ : Type}

/-- What is known of a run that has parted from another one: something that is
true as long as it goes on, and something that is true of its ending. -/
structure Fate (σ : Type) where
  going : Run σ → Prop
  ended : Ending → Prop

namespace Fate

/-- A run that ends at once. -/
def ends (ended : Ending → Prop) : Fate σ := ⟨fun _ => False, ended⟩

/-- No run has this fate. -/
def never : Fate σ := .ends fun _ => False

variable {α β : Type}

/-- A step has met its fate. -/
def Met (fate : Fate σ) : EStateM.Result Ending (Run σ) α → Prop
  | .ok _ run => fate.going run
  | .error ending _ => fate.ended ending

/-- Nothing that the step does leads out of a fate. -/
def Kept (fate : Fate σ) (x : Polling σ α) : Prop :=
  ∀ run, fate.going run → fate.Met (x run)

variable {fate : Fate σ} {x : Polling σ α} {f : α → Polling σ β} {run : Run σ}

theorem not_met_never {r : EStateM.Result Ending (Run σ) α} : ¬ (never : Fate σ).Met r := by
  cases r <;> exact id

theorem met_ends {ended : Ending → Prop} {r : EStateM.Result Ending (Run σ) α}
    (h : (ends ended : Fate σ).Met r) : ∃ ending final, r = .error ending final ∧ ended ending := by
  cases r with
  | ok a next => exact h.elim
  | error ending final => exact ⟨ending, final, rfl, h⟩

/-- A run that has ended has no steps left. -/
theorem kept_ends (ended : Ending → Prop) (x : Polling σ α) : (ends ended : Fate σ).Kept x :=
  fun _ h => h.elim

theorem Met.bind (h : fate.Met (x run)) (hf : ∀ a, fate.Kept (f a)) : fate.Met ((x >>= f) run) := by
  cases hx : x run with
  | ok a next =>
      rw [hx] at h
      rw [Polling.bind_ok hx]
      exact hf a next h
  | error ending final =>
      rw [hx] at h
      rw [Polling.bind_error hx]
      exact h

theorem Kept.bind (hx : fate.Kept x) (hf : ∀ a, fate.Kept (f a)) : fate.Kept (x >>= f) :=
  fun run h => (hx run h).bind hf

theorem Kept.pure {a : α} : fate.Kept (Pure.pure a : Polling σ α) := fun _ h => h

end Fate

namespace Polling

variable {α β : Type} {before : Run σ → Prop} {fate fate' : Fate σ} {plan plan' : Plan}
  {around around' : Surroundings σ}

/-! ## Steps that are the same or part -/

/-- Steps that come to the same go on in the same way from there. -/
theorem bind_congr_left {ε τ : Type} {x y : EStateM ε τ α} {s t : τ} (h : x s = y t)
    (f : α → EStateM ε τ β) : (x >>= f) s = (y >>= f) t := by
  show EStateM.bind x f s = EStateM.bind y f t
  unfold EStateM.bind
  rw [h]

/-- From every run with `before`, two steps do the same and leave a run with `after`
if they go on, or they part, and one of them has met its fate. -/
def Together (before : Run σ → Prop) (fate fate' : Fate σ) (x y : Polling σ α)
    (after : α → Run σ → Prop) : Prop :=
  ∀ run, before run →
    (x run = y run ∧ ∀ a next, x run = .ok a next → after a next) ∨
      fate.Met (x run) ∨ fate'.Met (y run)

namespace Together

variable {x y : Polling σ α} {f g : α → Polling σ β} {between : α → Run σ → Prop}
  {after : β → Run σ → Prop}

/-- A step is the same as itself. -/
theorem refl {z : Polling σ β} {ended : Ending → Run σ → Prop} (h : Leads before z after ended) :
    Together before fate fate' z z after :=
  fun _ hrun => .inl ⟨rfl, fun _ _ hok => h.ok hrun hok⟩

theorem bind (hxy : Together before fate fate' x y between)
    (hfg : ∀ a, Together (between a) fate fate' (f a) (g a) after) (hf : ∀ a, fate.Kept (f a))
    (hg : ∀ a, fate'.Kept (g a)) : Together before fate fate' (x >>= f) (y >>= g) after := by
  intro run hrun
  rcases hxy run hrun with ⟨hsame, hnext⟩ | hmet | hmet
  · cases hx : x run with
    | ok a next =>
        have hy : y run = .ok a next := hsame.symm.trans hx
        rw [bind_ok hx, bind_ok hy]
        exact hfg a next (hnext a next hx)
    | error ending final =>
        have hy : y run = .error ending final := hsame.symm.trans hx
        rw [bind_error hx, bind_error hy]
        exact .inl ⟨rfl, fun a next hok => by cases hok⟩
  · exact .inr (.inl (hmet.bind hf))
  · exact .inr (.inr (hmet.bind hg))

/-- If one of the runs ends as soon as they part, nothing has to be said about later
steps. -/
theorem bind_ends {ended ended' : Ending → Prop}
    (hxy : Together before (.ends ended) (.ends ended') x y between)
    (hfg : ∀ a, Together (between a) (.ends ended) (.ends ended') (f a) (g a) after) :
    Together before (.ends ended) (.ends ended') (x >>= f) (y >>= g) after :=
  hxy.bind hfg (fun _ => Fate.kept_ends _ _) fun _ => Fate.kept_ends _ _

/-- Runs that are the same in every round until they part are the same in any
number of rounds, until they part. -/
theorem rounds [ReasonLog σ]
    (h : Together before fate fate' (round plan around) (round plan' around') fun _ => before)
    (hkept : fate.Kept (round plan around)) (hkept' : fate'.Kept (round plan' around')) (n : Nat) :
    Together before fate fate' (Polling.rounds plan around n) (Polling.rounds plan' around' n)
        (fun _ => before) ∧
      fate.Kept (Polling.rounds plan around n) ∧ fate'.Kept (Polling.rounds plan' around' n) := by
  induction n with
  | zero => exact ⟨fun run hrun => .inl ⟨rfl, fun _ _ hok => by cases hok; exact hrun⟩, .pure, .pure⟩
  | succ n ih =>
      obtain ⟨hmore, hmoreKept, hmoreKept'⟩ := ih
      exact ⟨h.bind (fun _ => hmore) (fun _ => hmoreKept) fun _ => hmoreKept',
        hkept.bind fun _ => hmoreKept, hkept'.bind fun _ => hmoreKept'⟩

end Together

/-! ## What a round keeps -/

/-- What a round does after its pause. -/
def wake (plan : Plan) (around : Surroundings σ) : Polling σ Unit := do
  stopIfDone around
  if plan.timeout ≤ (← elapsed around) then expire plan around

/-- What a round does after its attempt. -/
def recess (plan : Plan) (around : Surroundings σ) : Polling σ Unit := do
  stopIfDone around
  let left := plan.timeout.sub (← elapsed around)
  if left = 0 then expire plan around
  pause plan around left
  wake plan around

theorem round_eq [ReasonLog σ] (plan : Plan) (around : Surroundings σ) :
    round plan around =
      (stopIfDone around >>= fun _ => attempt plan around >>= fun _ => recess plan around) := rfl

end Polling

/-- What is true of the world stays true, whatever a run asks its surroundings for. -/
structure Keeps (around : Surroundings σ) (always : σ → Prop) : Prop where
  now : ∀ v, always v → always (around.now v).2
  cancelled : ∀ v, always v → always (around.cancelled v).2
  sleep : ∀ d v t, always v → around.sleep d v = .ok () t → always t
  attempt : ∀ v answer t, always v → around.attempt v = .ok answer t → always t
  publish : ∀ reason v, always v → always (around.publish reason v)

/-- The fate of a run in whose world something is always true. -/
def Fate.within (always : σ → Prop) (ended : Ending → Prop) : Fate σ :=
  ⟨fun run => always run.world, ended⟩

namespace Polling

variable {always : σ → Prop} {ended : Ending → Prop} {plan : Plan} {around : Surroundings σ}

theorem elapsed_kept (h : Keeps around always) : (Fate.within always ended).Kept (elapsed around) :=
  fun run hrun => h.now run.world hrun

section

variable (h : Keeps around always) (hended : ∀ ending, ending ≠ .passed → ended ending)

include h hended

theorem stopIfDone_kept : (Fate.within always ended).Kept (stopIfDone around) := by
  have hlook : (Fate.within always ended).Kept (look around) :=
    fun run hrun => h.cancelled run.world hrun
  unfold stopIfDone
  refine hlook.bind fun done => ?_
  cases done with
  | true => exact fun run _ => hended _ (by simp)
  | false => exact .pure

theorem pause_kept (left : Span) : (Fate.within always ended).Kept (pause plan around left) := by
  intro run hrun
  unfold pause
  cases hsleep : around.sleep (min plan.interval left) run.world with
  | ok a t =>
      rw [bind_ok (perform_ok hsleep)]
      exact h.sleep _ _ _ hrun hsleep
  | error payload t =>
      rw [bind_error (perform_error hsleep)]
      exact hended _ (by simp)

variable (hpassed : plan.kind = .eventually ∨ ended .passed)

include hpassed

omit h in
theorem expire_kept : (Fate.within always ended).Kept (expire plan around) := by
  intro run hrun
  unfold expire
  cases hkind : plan.kind with
  | eventually => exact hended _ (by simp)
  | consistently => exact hpassed.resolve_left (by simp [hkind])

/-- What happens after a pause keeps what the surroundings keep. -/
theorem wake_kept : (Fate.within always ended).Kept (wake plan around) := by
  unfold wake
  refine (stopIfDone_kept h hended).bind fun _ => (elapsed_kept h).bind fun d => ?_
  by_cases hover : plan.timeout ≤ d
  · rw [if_pos hover]
    exact expire_kept hended hpassed
  · rw [if_neg hover]
    exact .pure

/-- What happens after an attempt keeps what the surroundings keep. -/
theorem recess_kept : (Fate.within always ended).Kept (recess plan around) := by
  have hrest : ∀ left, (Fate.within always ended).Kept
      (pause plan around left >>= fun _ => wake plan around) :=
    fun left => (pause_kept h hended left).bind fun _ => wake_kept h hended hpassed
  unfold recess
  refine (stopIfDone_kept h hended).bind fun _ => (elapsed_kept h).bind fun d => ?_
  by_cases hleft : plan.timeout.sub d = 0
  · rw [if_pos hleft]
    exact (expire_kept hended hpassed).bind fun _ => hrest _
  · rw [if_neg hleft]
    exact hrest _

end

/-! ## Attempts -/

variable [ReasonLog σ]

theorem interrupt_kept (hended : ∀ ending, ending ≠ .passed → ended ending)
    (hpassed : plan.kind = .eventually ∨ ended .passed) (stop : StopSignal) :
    (Fate.within always ended).Kept (interrupt plan around stop) := by
  intro run _
  have hget : (get : Polling σ (Run σ)) run = .ok run run := rfl
  unfold interrupt
  rw [bind_ok hget]
  cases hkind : plan.kind with
  | eventually => exact hended _ (by simp)
  | consistently =>
      have hpass : ended .passed := hpassed.resolve_left (by simp [hkind])
      cases run.verdict? with
      | none => exact hended _ (by simp)
      | some verdict =>
          obtain ⟨passed, reason⟩ := verdict
          cases passed with
          | true => exact hpass
          | false => exact hended _ (by simp)

theorem decide_kept (hended : ∀ ending, ending ≠ .passed → ended ending) {e : Evaluation}
    (hpassed : plan.kind = .eventually ∧ e.passed = false ∨ ended .passed) :
    (Fate.within always ended).Kept (decide plan around e) := by
  intro run hrun
  unfold decide
  cases hkind : plan.kind <;> cases hverdict : e.passed
  case eventually.true => exact hpassed.resolve_left (by simp [hverdict])
  case eventually.false =>
    cases e.stop? with
    | some stop => exact hended _ (by simp)
    | none =>
        cases e.hint? with
        | some hint => exact hended _ (by simp)
        | none => exact hrun
  case consistently.true =>
    cases e.stop? with
    | some stop => exact hpassed.resolve_left (by simp [hkind])
    | none => exact hrun
  case consistently.false =>
    cases e.stop? with
    | some stop => exact hended _ (by simp)
    | none => exact hended _ (by simp)

/-- An attempt keeps what the surroundings keep. As long as that keeps it from passing, an
*eventually* run does not pass. -/
theorem attempt_kept (h : Keeps around always) (hended : ∀ ending, ending ≠ .passed → ended ending)
    (hpassed : (plan.kind = .eventually ∧ ∀ v e t, always v →
      around.attempt v = .ok (.ok (.evaluated e)) t → e.passed = false) ∨ ended .passed) :
    (Fate.within always ended).Kept (attempt plan around) := by
  intro run hrun
  cases hattempt : around.attempt run.world with
  | error payload t =>
      rw [attempt_unwound hattempt]
      exact hended _ (by simp)
  | ok answer t =>
      have ht : always t := h.attempt _ _ _ hrun hattempt
      cases answer with
      | error e =>
          rw [attempt_refused hattempt]
          exact hended _ (by simp)
      | ok judgement =>
          cases judgement with
          | interrupted stop =>
              rw [attempt_interrupted hattempt]
              exact interrupt_kept hended (hpassed.imp_left (·.1)) stop _ ht
          | evaluated e =>
              rw [attempt_evaluated hattempt]
              refine decide_kept hended (hpassed.imp_left fun hnot => ?_) _ (h.publish _ _ ht)
              exact ⟨hnot.1, hnot.2 _ _ _ hrun hattempt⟩

/-- A round does nothing that leads out of a fate. -/
structure Lasts (fate : Fate σ) (plan : Plan) (around : Surroundings σ) : Prop where
  stopIfDone : fate.Kept (stopIfDone around)
  attempt : fate.Kept (attempt plan around)
  recess : fate.Kept (recess plan around)

theorem Lasts.round {fate : Fate σ} (h : Lasts fate plan around) :
    fate.Kept (Polling.round plan around) :=
  h.stopIfDone.bind fun _ => h.attempt.bind fun _ => h.recess

theorem lasts_ends (ended : Ending → Prop) (plan : Plan) (around : Surroundings σ) :
    Lasts (.ends ended) plan around :=
  ⟨Fate.kept_ends _ _, Fate.kept_ends _ _, Fate.kept_ends _ _⟩

/-- What the surroundings keep is kept in every round. -/
theorem lasts_within (h : Keeps around always) (hended : ∀ ending, ending ≠ .passed → ended ending)
    (hpassed : (plan.kind = .eventually ∧ ∀ v e t, always v →
      around.attempt v = .ok (.ok (.evaluated e)) t → e.passed = false) ∨ ended .passed) :
    Lasts (.within always ended) plan around :=
  ⟨stopIfDone_kept h hended, attempt_kept h hended hpassed,
    recess_kept h hended (hpassed.imp_left (·.1))⟩

/-! ## Surroundings with other attempts -/

variable {fate fate' : Fate σ} {other : Action σ (Except ConfigError Judgement)}

/-- Attempts that come to the same are the same attempt for their runs. -/
theorem attempt_congr {run : Run σ} (h : around.attempt run.world = other run.world) :
    attempt plan around run = attempt plan { around with attempt := other } run := by
  have hperform : perform around.attempt (begun run) = perform other (begun run) := by
    have hworld : around.attempt (begun run).world = other (begun run).world := h
    unfold perform
    rw [hworld]
  unfold attempt
  rw [bind_ok enter_began, bind_ok enter_began]
  exact bind_congr_left hperform _

/-- Runs whose attempts come to the same, or else part them, part in no other step. -/
theorem round_together (plan : Plan) (h : Keeps around always)
    (hattempt : ∀ run, always run.world → around.attempt run.world = other run.world ∨
      fate.Met (attempt plan around run) ∨
      fate'.Met (attempt plan { around with attempt := other } run))
    (hlasts : Lasts fate plan around) (hlasts' : Lasts fate' plan { around with attempt := other }) :
    Together (fun run => always run.world) fate fate' (round plan around)
      (round plan { around with attempt := other }) fun _ run => always run.world := by
  have hkeeps : Lasts (.within always fun _ => True) plan around :=
    lasts_within h (fun _ _ => trivial) (.inr trivial)
  have hsame : ∀ {x : Polling σ Unit}, (Fate.within always fun _ => True).Kept x →
      Together (fun run => always run.world) fate fate' x x fun _ run => always run.world :=
    fun hx => .refl fun run hrun => hx run hrun
  rw [round_eq, round_eq]
  refine (hsame hkeeps.stopIfDone).bind (fun _ => ?_)
    (fun _ => hlasts.attempt.bind fun _ => hlasts.recess)
    fun _ => hlasts'.attempt.bind fun _ => hlasts'.recess
  refine Together.bind (fun run hrun => ?_) (fun _ => hsame hkeeps.recess) (fun _ => hlasts.recess)
    fun _ => hlasts'.recess
  rcases hattempt run hrun with hworld | hmet
  · refine .inl ⟨attempt_congr hworld, fun a next hok => ?_⟩
    have hnext := hkeeps.attempt run hrun
    rw [hok] at hnext
    exact hnext
  · exact .inr hmet

end Polling

/-! ## Assertions with other matchers -/

section

variable [ReasonLog σ] [HasCheckers σ] [HasContexts σ] [HasDesk σ] {poller : Poller σ}
  {a : Assertion σ} {matcher : Matcher σ Datum} {positive : Bool} {limit : Nat} {s : σ}
  {always : σ → Prop} {fate fate' : Fate σ}

/-- The run of an assertion and the run of one with another matcher are the same, until
an attempt parts them. -/
theorem Poller.rounds_together (limit : Nat) (hkeeps : Keeps (poller.scene a s) always)
    (hattempt : ∀ run, always run.world →
      a.attempt run.world = ({ a with matcher, positive } : Assertion σ).attempt run.world ∨
      fate.Met (Polling.attempt (a.plan poller.defaults) (poller.scene a s) run) ∨
      fate'.Met (Polling.attempt (a.plan poller.defaults)
        (poller.scene { a with matcher, positive } s) run))
    (hlasts : Polling.Lasts fate (a.plan poller.defaults) (poller.scene a s))
    (hlasts' : Polling.Lasts fate' (a.plan poller.defaults)
      (poller.scene { a with matcher, positive } s))
    (hstart : always (poller.outset a s).world) :
    poller.run { a with matcher, positive } limit s = poller.run a limit s ∨
      fate.Met (Polling.rounds (a.plan poller.defaults) (poller.scene a s) limit
        (poller.outset a s)) ∨
      fate'.Met (Polling.rounds (a.plan poller.defaults)
        (poller.scene { a with matcher, positive } s) limit (poller.outset a s)) := by
  have hround := Polling.round_together (a.plan poller.defaults) hkeeps hattempt hlasts hlasts'
  obtain ⟨hrounds, -, -⟩ := Polling.Together.rounds hround hlasts.round hlasts'.round limit
  rcases hrounds _ hstart with ⟨hsame, -⟩ | hmet
  · left
    rw [run_eq, run_eq, hsame]
    rfl
  · exact .inr hmet

end

end PollingAssertions
