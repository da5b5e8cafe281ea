import PollingAssertions.Proofs.Polling.Decision

/-!
# Looking at the context

A run looks at its context before each attempt, after it, and after each pause, and
goes on only if the context is not done. Between two looks there is at most one
attempt or one pause. Two things follow from that. Where a run looks next it is either
cancelled or has found that the context is not done. And a context that is not done
at some look has not been done at any time before, provided that looking at it and
pausing let no context come undone.

## Main definitions

* `Journal.AwaitsLook` — after these events the run looks at its context.
* `Surroundings.KeepsDone` — looking and pausing let no context come undone.
* `Undone` — the context was not done at any time in a journal.

## Main results

* `Pending.look_next`, `Concluded.look_next` — what the next look finds.
* `Pending.undone_of_looked` — a context that is not done never was.
-/

namespace PollingAssertions

/-! ## Looking at the context -/

/-- After these events the run looks at its context: nothing at all, an attempt that
leaves the run open, or a pause. -/
inductive Journal.AwaitsLook (kind : Kind) : List Event → Prop
  | starting : AwaitsLook kind []
  | judged {e : Evaluation} {earlier : List Event} :
      e.LeavesOpen kind → AwaitsLook kind (.attempted (.evaluated e) :: earlier)
  | rested {d : Span} {earlier : List Event} : AwaitsLook kind (.paused d :: earlier)

namespace Journal.AwaitsLook

variable {kind : Kind} {before journal : List Event}

/-- Any other event is not the last one of such a journal. -/
theorem suffix_of_cons (h : AwaitsLook kind before) {event : Event}
    (hevent : ¬ AwaitsLook kind (event :: journal)) (hsuffix : before <:+ event :: journal) :
    before <:+ journal := by
  rcases List.suffix_cons_iff.1 hsuffix with rfl | hsuffix
  · exact absurd h hevent
  · exact hsuffix

theorem suffix_of_looked (h : AwaitsLook kind before) {done : Bool}
    (hsuffix : before <:+ .looked done :: journal) : before <:+ journal :=
  h.suffix_of_cons (fun h => by cases h) hsuffix

theorem suffix_of_began (h : AwaitsLook kind before) (hsuffix : before <:+ .began :: journal) :
    before <:+ journal :=
  h.suffix_of_cons (fun h => by cases h) hsuffix

theorem suffix_of_elapsed (h : AwaitsLook kind before) {d : Span}
    (hsuffix : before <:+ .elapsed d :: journal) : before <:+ journal :=
  h.suffix_of_cons (fun h => by cases h) hsuffix

theorem suffix_of_attempted (h : AwaitsLook kind before) {judgement : Judgement}
    (hdecisive : ¬ judgement.LeavesOpen kind)
    (hsuffix : before <:+ .attempted judgement :: journal) : before <:+ journal := by
  refine h.suffix_of_cons (fun h => ?_) hsuffix
  cases h with
  | judged hopen => exact hdecisive ⟨_, rfl, hopen⟩

theorem suffix_of_notes (h : AwaitsLook kind before) {notes : List Event}
    (hnotes : ∀ note ∈ notes, note.IsNote) (hsuffix : before <:+ notes ++ journal) :
    before <:+ journal := by
  cases h with
  | starting => exact List.nil_suffix
  | judged _ => exact Event.suffix_of_notes (fun hnote => by cases hnote) hnotes hsuffix
  | rested => exact Event.suffix_of_notes (fun hnote => by cases hnote) hnotes hsuffix

end Journal.AwaitsLook

namespace Pending

variable {plan : Plan} {phase : Phase} {journal before : List Event}

/-- As long as nothing is decided, the context was not done when the run looked. -/
theorem look_next (h : Pending plan [] phase journal)
    (hbefore : Journal.AwaitsLook plan.kind before) (hsuffix : before <:+ journal) :
    before = journal ∨ .looked false :: before <:+ journal := by
  induction h with
  | starting => exact .inl (List.suffix_nil.1 hsuffix)
  | @judged journal e _ _ ih =>
      rcases List.suffix_cons_iff.1 hsuffix with heq | hsuffix
      · exact .inl heq
      · right
        rcases ih (hbefore.suffix_of_looked (hbefore.suffix_of_began hsuffix)) with rfl | hlooked
        · simp [List.suffix_cons_iff]
        · simp [List.suffix_cons_iff, hlooked]
  | @rested journal d _ _ ih =>
      rcases List.suffix_cons_iff.1 hsuffix with heq | hsuffix
      · exact .inl heq
      · right
        rcases ih (hbefore.suffix_of_looked (hbefore.suffix_of_elapsed hsuffix)) with rfl | hlooked
        · simp [List.suffix_cons_iff]
        · simp [List.suffix_cons_iff, hlooked]
  | @resumed journal d _ _ ih =>
      right
      rcases ih (hbefore.suffix_of_looked (hbefore.suffix_of_elapsed hsuffix)) with rfl | hlooked
      · exact List.suffix_cons _ _
      · simp [List.suffix_cons_iff, hlooked]

end Pending

/-- Before the first attempt a run looks at its context only if nothing has happened. -/
theorem Pending.eq_nil_of_awaitsLook {plan : Plan} {journal : List Event}
    (h : Pending plan [] .opening journal) (hlook : Journal.AwaitsLook plan.kind journal) :
    journal = [] := by
  cases h with
  | starting => rfl
  | resumed _ _ => cases hlook

/-- Where the run looks at its context it is cancelled, or the context is not done. -/
theorem Concluded.look_next {plan : Plan} {journal before : List Event} {ending : Ending}
    (h : Concluded plan [] journal ending) (hbefore : Journal.AwaitsLook plan.kind before)
    (hsuffix : before <:+ journal) :
    (∃ d, journal = .elapsed d :: .looked true :: before ∧
        ending = .failed .cancelled (Journal.reason before) d) ∨
      .looked false :: before <:+ journal := by
  have hlooked : ∀ {phase : Phase} {pending : List Event}, Pending plan [] phase pending →
      .looked false :: pending <:+ journal → before <:+ pending →
      .looked false :: before <:+ journal := by
    intro phase pending hpending hpart hsuffix
    rcases hpending.look_next hbefore hsuffix with rfl | hearlier
    · exact hpart
    · exact (hearlier.trans (List.suffix_cons _ _)).trans hpart
  obtain ⟨phase, pending, hpending, hends⟩ := h.last_look
  cases hends with
  | @cancelled d =>
      have hsuffix' := hbefore.suffix_of_looked (hbefore.suffix_of_elapsed hsuffix)
      rcases hpending.look_next hbefore hsuffix' with rfl | hearlier
      · exact .inl ⟨d, rfl, rfl⟩
      · exact .inr (by simp [List.suffix_cons_iff, hearlier])
  | @decided judgement notes _ hnotes hdecides =>
      have hattempted := hbefore.suffix_of_notes hnotes hsuffix
      have hbegan := hbefore.suffix_of_attempted hdecides.not_leavesOpen hattempted
      have hpart : .looked false :: pending <:+
          notes ++ .attempted judgement :: .began :: .looked false :: pending :=
        List.IsSuffix.trans (by simp [List.suffix_cons_iff]) (List.suffix_append _ _)
      have hlast := hbefore.suffix_of_looked (hbefore.suffix_of_began hbegan)
      exact .inr (hlooked hpending hpart hlast)
  | unjudged _ =>
      exact .inr (hlooked hpending (List.suffix_cons _ _)
        (hbefore.suffix_of_looked (hbefore.suffix_of_began hsuffix)))
  | unattempted hreadings =>
      have hread := hbefore.suffix_of_notes (fun note hnote => by
        obtain ⟨d, rfl⟩ := hreadings note hnote
        exact .elapsed) hsuffix
      exact .inr (hlooked hpending (List.suffix_append _ _) (hbefore.suffix_of_looked hread))

/-! ## Contexts that are not done -/

section

variable {σ : Type} [ReasonLog σ] {around : Surroundings σ} {started : Span} {s w : σ} {plan : Plan}
  {phase : Phase} {journal : List Event}

/-- Looking at the context does not change the answer, and a context that is done stays
done in a pause. -/
structure Surroundings.KeepsDone (around : Surroundings σ) : Prop where
  look : ∀ v, (around.cancelled (around.cancelled v).2).1 = (around.cancelled v).1
  rest : ∀ {d v t}, around.sleep d v = .ok () t → (around.cancelled v).1 = true →
    (around.cancelled t).1 = true

/-- The context was not done at any time in a journal. -/
def Undone (around : Surroundings σ) (started : Span) (s : σ) (journal : List Event) : Prop :=
  ∀ earlier v, earlier <:+ journal → Course around started s earlier v →
    (around.cancelled v).1 = false

namespace Undone

theorem cons {event : Event} (h : Undone around started s journal)
    (hlast : ∀ v, Course around started s (event :: journal) v → (around.cancelled v).1 = false) :
    Undone around started s (event :: journal) := by
  intro earlier v hsuffix hcourse
  rcases List.suffix_cons_iff.1 hsuffix with rfl | hsuffix
  · exact hlast v hcourse
  · exact h earlier v hsuffix hcourse

theorem began (h : Undone around started s journal) :
    Undone around started s (.began :: journal) := by
  refine h.cons fun v hcourse => ?_
  obtain ⟨u, hu, hevent⟩ := course_cons.1 hcourse
  cases hevent with
  | began => exact h journal v List.suffix_rfl hu

/-- A look that finds the context undone says so of the time before it and after it. -/
theorem looked (hkeeps : around.KeepsDone)
    (hbefore : ∀ event earlier, journal = event :: earlier → Undone around started s earlier)
    (hlooked : Course around started s (.looked false :: journal) w) :
    Undone around started s (.looked false :: journal) := by
  obtain ⟨u, hu, hevent⟩ := course_cons.1 hlooked
  cases hevent with
  | looked hundone =>
      have hlast : ∀ v, Course around started s journal v → (around.cancelled v).1 = false := by
        intro v hv
        have hsame : v = u := hv.unique hu
        rw [hsame, hundone]
      have hjournal : Undone around started s journal := by
        cases journal with
        | nil =>
            intro earlier v hsuffix hcourse
            rw [List.suffix_nil.1 hsuffix] at hcourse
            exact hlast v hcourse
        | cons event rest => exact (hbefore event rest rfl).cons hlast
      refine hjournal.cons fun v hcourse => ?_
      have hsame : v = w := hcourse.unique hlooked
      have hagain := hkeeps.look u
      rw [hundone] at hagain
      rw [hsame]
      exact hagain

/-- A pause after which the context is not done was taken while it was not done. -/
theorem rested (hkeeps : around.KeepsDone) {event : Event} {d : Span}
    (h : Undone around started s journal)
    (hlooked : Course around started s (.looked false :: .paused d :: event :: journal) w) :
    Undone around started s (event :: journal) := by
  obtain ⟨t, hpaused, hlook⟩ := course_cons.1 hlooked
  obtain ⟨u, hu, hrest⟩ := course_cons.1 hpaused
  refine h.cons fun v hcourse => ?_
  have hsame : v = u := hcourse.unique hu
  rw [hsame]
  cases hrest with
  | paused hsleep =>
      cases hlook with
      | looked hundone =>
          apply Bool.eq_false_iff.2
          intro hdone
          have hstill := hkeeps.rest hsleep hdone
          rw [hundone] at hstill
          cases hstill

end Undone

/-- A context that is not done now never was: every attempt and every pause was followed
by a look. -/
theorem Pending.undone_of_looked (h : Pending plan [] phase journal)
    (hkeeps : around.KeepsDone)
    (hlooked : Course around started s (.looked false :: journal) w) :
    Undone around started s (.looked false :: journal) := by
  induction h generalizing w with
  | starting =>
      refine .looked hkeeps (fun event earlier heq => ?_) hlooked
      cases heq
  | @judged journal e _ _ ih =>
      obtain ⟨v, hv⟩ : ∃ v, Course around started s (.looked false :: journal) v :=
        hlooked.of_suffix (by simp [List.suffix_cons_iff])
      refine .looked hkeeps (fun event earlier heq => ?_) hlooked
      cases heq
      exact (ih hv).began
  | @rested journal d _ _ ih =>
      obtain ⟨v, hv⟩ : ∃ v, Course around started s (.looked false :: journal) v :=
        hlooked.of_suffix (by simp [List.suffix_cons_iff])
      refine .looked hkeeps (fun event earlier heq => ?_) hlooked
      cases heq
      exact (ih hv).rested hkeeps hlooked
  | @resumed journal d _ _ ih =>
      obtain ⟨v, hv⟩ : ∃ v, Course around started s (.looked false :: journal) v :=
        hlooked.of_suffix (by simp [List.suffix_cons_iff])
      refine .looked hkeeps (fun event earlier heq => ?_) hlooked
      cases heq
      exact ih hv

end

end PollingAssertions
