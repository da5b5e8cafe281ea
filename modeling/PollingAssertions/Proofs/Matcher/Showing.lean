import PollingAssertions.Matcher.Combinator
import PollingAssertions.Matcher.Outcome
import PollingAssertions.Matcher.Value
import PollingAssertions.Proofs.Channel.Traffic
import PollingAssertions.Proofs.Polling.Attachment

/-!
# What a matcher works out

A deferred reason is worked out when a text shows it. A matcher of the library shows
its subject, what it compares the subject with, and a message that it did not want to
receive, and nothing else. So every reason that it works out is in one of these
(`Datum.Exposes`). This holds of every question it may be asked, whether or not the
verdict is the wanted one, and it passes from matchers to their combinations. In the
other direction, whoever asks a judge of values for its text has all reasons in the
subject worked out (`Judge.Telling`).

The account (`WorkedOut`) says what is new between two worlds, and that messages were
only taken from channels meanwhile; for a message that is shown later has to have
waited before.

## Main definitions

* `HasReasons` — worlds that remember which deferred reasons were worked out.
* `Datum.Exposes` — the reasons that may be worked out for a subject.
* `WorkedOut`, `Asks` — the account between two worlds, and that of an action.
* `Judge.Own`, `Matcher.Own` — the matchers of the library.
* `Judge.Accounts` — a judge works out only what its subjects expose.
* `Judge.Telling` — the judges whose texts show the subject.

## Main results

* `Judge.Own.accounts` — a matcher of the library works out only what its subject
  exposes.
* `Judge.Telling.mem_reasons` — what is worked out for a text that shows the subject.
-/

namespace PollingAssertions

/-! ## Worlds that remember reasons -/

/-- Worlds that remember which deferred reasons were worked out, latest first. -/
class HasReasons (σ : Type) [ReasonLog σ] where
  reasons : σ → List String
  reasons_workedOut : ∀ reason s, reasons (ReasonLog.workedOut reason s) = reason :: reasons s

/-- Worlds that keep their reasons and their channels apart. -/
class ReasonsApart (σ : Type) [ReasonLog σ] [HasReasons σ] [HasChannels σ] : Prop where
  reasons_channels : ∀ (channels : Channels) (s : σ),
    HasReasons.reasons (HasChannels.part.set channels s) = HasReasons.reasons s
  channels_workedOut : ∀ (reason : String) (s : σ),
    HasChannels.part.get (ReasonLog.workedOut reason s) = HasChannels.part.get s

/-- The reason that an entry tells of. -/
def Session.Entry.reason? : Session.Entry → Option String
  | .rendered reason => some reason
  | _ => none

instance : HasReasons Session.World := ⟨fun w => w.entries.filterMap Session.Entry.reason?,
  fun _ _ => rfl⟩

instance : ReasonsApart Session.World := ⟨fun _ _ => rfl, fun _ _ => rfl⟩

open HasReasons HasChannels

/-! ## Messages are only taken -/

/-- To take a message adds none, to whatever channel. -/
theorem Channels.queue_of_tryReceive {cs : Channels} {number other : Nat} {v : Value}
    (h : v ∈ ((cs.tryReceive number).2.channel other).queue) : v ∈ (cs.channel other).queue := by
  by_cases hsame : number = other
  · subst hsame
    obtain ⟨-, hchannel, -⟩ := cs.tryReceive_channel number
    rw [hchannel] at h
    unfold Channel.tryReceive at h
    cases hqueue : (cs.channel number).queue with
    | nil =>
        rw [hqueue] at h
        exact absurd h (by simp [hqueue])
    | cons message queue =>
        rw [hqueue] at h
        exact List.mem_cons_of_mem _ h
  · unfold tryReceive at h
    cases hnumber : cs.channels[number]? with
    | none =>
        rw [hnumber] at h
        exact h
    | some channel =>
        rw [hnumber] at h
        have hother : (cs.channels.setIfInBounds number channel.tryReceive.2)[other]? =
            cs.channels[other]? := Array.getElem?_setIfInBounds_ne hsame
        unfold Channels.channel at h ⊢
        rw [hother] at h
        exact h

/-- The message that is received was waiting. -/
theorem Channels.mem_of_tryReceive {cs : Channels} {number : Nat} {v : Value}
    (h : (cs.tryReceive number).1 = .message v) : v ∈ (cs.channel number).queue := by
  obtain ⟨hreceived, -, -⟩ := cs.tryReceive_channel number
  rw [hreceived] at h
  unfold Channel.tryReceive at h
  cases hqueue : (cs.channel number).queue with
  | nil =>
      rw [hqueue] at h
      cases hopen : (cs.channel number).isOpen <;> simp [hopen] at h
  | cons message queue =>
      rw [hqueue] at h
      cases h
      exact List.mem_cons_self

/-! ## The account -/

variable {σ : Type} [ReasonLog σ] [HasReasons σ] [HasChannels σ]

omit [HasChannels σ] in
/-- Asking for reasons works them out, one after the other. -/
theorem reasons_ask (asked : List String) (s : σ) :
    reasons ((ReasonLog.ask asked).after s) = asked.reverse ++ reasons s := by
  show reasons (asked.foldl (fun s reason => ReasonLog.workedOut reason s) s) = _
  induction asked generalizing s with
  | nil => rfl
  | cons reason asked ih =>
      rw [List.foldl_cons, ih, reasons_workedOut, List.reverse_cons, List.append_assoc]
      rfl

theorem channels_ask [ReasonsApart σ] (asked : List String) (s : σ) :
    HasChannels.part.get ((ReasonLog.ask asked).after s) = HasChannels.part.get s := by
  show HasChannels.part.get (asked.foldl (fun s reason => ReasonLog.workedOut reason s) s) = _
  induction asked generalizing s with
  | nil => rfl
  | cons reason asked ih => rw [List.foldl_cons, ih, ReasonsApart.channels_workedOut]

/-- The deferred reasons that may be worked out for a subject: the subject contains
them, or something `given` does, or a message that waits in its channel. -/
inductive Datum.Exposes (given : List String) (subject : Datum) (s : σ) (reason : String) : Prop
  | subject : reason ∈ subject.value.asked → Exposes given subject s reason
  | given : reason ∈ given → Exposes given subject s reason
  | message {number : Nat} {v : Value} :
      subject.value = .receiver number → v ∈ (channelIn number s).queue → reason ∈ v.asked →
      Exposes given subject s reason

/-- Between two worlds only `exposed` reasons were worked out, and messages only taken. -/
structure WorkedOut (exposed : String → Prop) (s t : σ) : Prop where
  reasons_eq : ∃ new, reasons t = new ++ reasons s ∧ ∀ reason ∈ new, exposed reason
  queue : ∀ number v, v ∈ (channelIn number t).queue → v ∈ (channelIn number s).queue

namespace WorkedOut

variable {exposed weaker : String → Prop} {s t u : σ}

theorem refl (s : σ) : WorkedOut exposed s s := ⟨⟨[], rfl, by simp⟩, fun _ _ h => h⟩

theorem trans (h : WorkedOut exposed s t) (h' : WorkedOut exposed t u) : WorkedOut exposed s u where
  reasons_eq := by
    obtain ⟨new, hnew, hexposed⟩ := h.reasons_eq
    obtain ⟨new', hnew', hexposed'⟩ := h'.reasons_eq
    refine ⟨new' ++ new, by rw [hnew', hnew, List.append_assoc], fun reason hreason => ?_⟩
    exact (List.mem_append.1 hreason).elim (hexposed' reason) (hexposed reason)
  queue number v hv := h.queue number v (h'.queue number v hv)

theorem mono (h : WorkedOut exposed s t) (hweaker : ∀ reason, exposed reason → weaker reason) :
    WorkedOut weaker s t where
  reasons_eq := by
    obtain ⟨new, hnew, hexposed⟩ := h.reasons_eq
    exact ⟨new, hnew, fun reason hreason => hweaker reason (hexposed reason hreason)⟩
  queue := h.queue

/-- Asking for reasons works them out, and does nothing else. -/
theorem ask [ReasonsApart σ] {asked : List String} (h : ∀ reason ∈ asked, exposed reason) (s : σ) :
    WorkedOut exposed s ((ReasonLog.ask asked).after s) where
  reasons_eq :=
    ⟨asked.reverse, reasons_ask asked s, fun reason hreason => h reason (List.mem_reverse.1 hreason)⟩
  queue number v hv := by
    unfold channelIn at hv ⊢
    rw [channels_ask] at hv
    exact hv

end WorkedOut

/-- What is exposed later was exposed before, if messages were only taken. -/
theorem Datum.Exposes.earlier {given : List String} {subject : Datum} {exposed : String → Prop}
    {s t : σ} {r : String} (h : subject.Exposes given t r) (hst : WorkedOut exposed s t) :
    subject.Exposes given s r := by
  cases h with
  | subject hasked => exact .subject hasked
  | given hgiven => exact .given hgiven
  | message hvalue hv hasked => exact .message hvalue (hst.queue _ _ hv) hasked

/-- Whatever an action works out is exposed by the subject. -/
def Asks {α : Type} (given : List String) (subject : Datum) (x : Action σ α) : Prop :=
  ∀ s, WorkedOut (subject.Exposes given s) s (x.after s)

namespace Asks

variable {α β : Type} {given : List String} {subject : Datum} {x : Action σ α} {f : α → Action σ β}

theorem pure (a : α) : Asks given subject (Pure.pure a : Action σ α) := fun s => .refl s

theorem bind (hx : Asks given subject x)
    (hf : ∀ a s t, x s = .ok a t → Asks given subject (f a)) : Asks given subject (x >>= f) := by
  intro s
  have hfirst := hx s
  cases hstep : x s with
  | ok a t =>
      rw [Action.after_ok hstep] at hfirst
      rw [Action.after_bind hstep]
      exact hfirst.trans ((hf a s t hstep t).mono fun _ h => h.earlier hfirst)
  | error payload t =>
      rw [Action.after_error hstep] at hfirst
      rw [Action.after_error (Action.bind_error hstep)]
      exact hfirst

/-- A text exposes nothing of its own. -/
theorem of_text {text : String} (h : Asks given (.ofString text) x) : Asks given subject x := by
  intro s
  refine (h s).mono fun _ hreason => ?_
  cases hreason with
  | subject hasked => cases hasked
  | given hgiven => exact .given hgiven
  | message hvalue _ _ => cases hvalue

theorem ask [ReasonsApart σ] {asked : List String}
    (h : ∀ reason ∈ asked, reason ∈ subject.value.asked ∨ reason ∈ given) :
    Asks given subject (ReasonLog.ask asked : Action σ Unit) :=
  fun s => .ask (fun reason hreason => (h reason hreason).elim .subject .given) s

/-- An expectation of the subject shows the subject. -/
theorem expectationOf [ReasonsApart σ] {shown : Datum} (relation : String)
    (h : shown.value.asked = subject.value.asked) :
    Asks given subject (PollingAssertions.expectationOf shown relation : Action σ String) :=
  (ask fun _ hreason => .inl (h ▸ hreason)).bind fun _ _ _ _ => .pure _

end Asks

/-! ## The matchers of the library -/

namespace Judge

/-- The matchers of the library and their combinations. What they compare subjects with
has no other deferred reasons than the `given` ones. -/
inductive Own (given : List String) : Judge σ Datum → Prop
  | compared (relation : Relation) {other : Datum} :
      (∀ reason ∈ other.value.asked, reason ∈ given) → Own given (compared relation other)
  | containsText (part : String) : Own given (containsText part)
  | satisfies (predicate : Value → Bool) (description : String) :
      Own given (satisfies predicate description)
  | isAbsent : Own given isAbsent
  | isPresent : Own given isPresent
  | succeeds : Own given succeeds
  | failsWith {judge : Judge σ Datum} : Own given judge → Own given (failsWith judge)
  | receives (observer : Nat) : Own given (receives observer)
  | closed : Own given closed
  | negation {judge : Judge σ Datum} : Own given judge → Own given judge.negation
  | allOf {judges : List (Judge σ Datum)} :
      (∀ judge ∈ judges, Own given judge) → Own given (allOf judges)
  | anyOf {judges : List (Judge σ Datum)} :
      (∀ judge ∈ judges, Own given judge) → Own given (anyOf judges)

/-- Whatever a judge is asked about a subject, it works out only what the subject exposes. -/
structure Accounts (given : List String) (judge : Judge σ Datum) : Prop where
  verdict : ∀ subject, Asks given subject (judge.verdict subject)
  failureText : ∀ subject, Asks given subject (judge.failureText subject)
  negatedText : ∀ subject, Asks given subject (judge.negatedText subject)
  hint : ∀ subject, Asks given subject (judge.hint subject)

variable {given : List String} {subject : Datum} {judge : Judge σ Datum}
  {judges : List (Judge σ Datum)}

/-! ### Channels -/

/-- To take a message works nothing out, and takes at most a message. -/
theorem take_workedOut [ReasonsApart σ] {exposed : String → Prop} {s t : σ} {received : Received}
    (h : take subject s = .ok received t) : WorkedOut exposed s t := by
  unfold take at h
  split at h
  · cases h
    refine ⟨⟨[], ReasonsApart.reasons_channels _ s, by simp⟩, fun other v hv => ?_⟩
    unfold channelIn at hv ⊢
    rw [HasChannels.part.get_set] at hv
    exact Channels.queue_of_tryReceive hv
  · cases h
    exact .refl _

omit [ReasonLog σ] [HasReasons σ] in
theorem take_message {s t : σ} {v : Value} (h : take subject s = .ok (.message v) t) :
    ∃ number, subject.value = .receiver number ∧ v ∈ (channelIn number s).queue := by
  unfold take at h
  split at h
  · rename_i number hvalue
    have hreceived : ((HasChannels.part.get s).tryReceive number).1 = .message v := by
      cases htaken : (HasChannels.part.get s).tryReceive number with
      | mk received channels =>
          rw [htaken] at h
          cases h
          rfl
    exact ⟨number, hvalue, Channels.mem_of_tryReceive hreceived⟩
  · cases h

theorem rememberClosed_asks [ReasonsApart σ] (observer : Nat) :
    Asks given subject (rememberClosed observer : Action σ Unit) := by
  intro s
  refine ⟨⟨[], ReasonsApart.reasons_channels _ s, by simp⟩, fun other v hv => ?_⟩
  have hchannel : channelIn other ((rememberClosed observer).after s) = channelIn other s := by
    show (HasChannels.part.get (HasChannels.part.update (Channels.noteClosed observer) s)).channel
      other = _
    rw [Part.get_update, Channels.channel_noteClosed]
    rfl
  rw [hchannel] at hv
  exact hv

theorem take_asks [ReasonsApart σ] : Asks given subject (take subject : Action σ Received) := by
  intro s
  obtain ⟨received, t, htake⟩ : ∃ received t, take subject s = .ok received t := by
    unfold take
    split
    · exact ⟨_, _, rfl⟩
    · exact ⟨_, _, rfl⟩
  rw [Action.after_ok htake]
  exact take_workedOut htake

theorem receivesText_asks [ReasonsApart σ] (observer : Nat) :
    Asks given subject (receivesText observer subject : Action σ String) := by
  unfold receivesText
  refine (Asks.expectationOf _ rfl).bind fun text _ _ _ => ?_
  have hseen : Asks given subject (hasSeenClosed observer : Action σ Bool) := fun s => .refl s
  refine hseen.bind fun saw _ _ _ => ?_
  split
  · exact .pure _
  · exact .pure _

theorem receives_accounts [ReasonsApart σ] (observer : Nat) :
    (receives observer : Judge σ Datum).Accounts given where
  verdict subject := by
    refine take_asks.bind fun received _ _ _ => ?_
    cases received with
    | message v => exact .pure _
    | empty => exact .pure _
    | disconnected => exact (rememberClosed_asks observer).bind fun _ _ _ _ => .pure _
  failureText subject := receivesText_asks observer
  negatedText subject := .expectationOf _ rfl
  hint subject := by
    have hseen : Asks given subject (hasSeenClosed observer : Action σ Bool) := fun s => .refl s
    refine hseen.bind fun saw _ _ _ => ?_
    split
    · exact (receivesText_asks observer).bind fun _ _ _ _ => .pure _
    · exact .pure _

/-- A message that `closed` did not want waited in its channel. -/
theorem closed_accounts [ReasonsApart σ] : (closed : Judge σ Datum).Accounts given where
  verdict subject := by
    intro s
    cases htake : take subject s with
    | error payload t =>
        unfold take at htake
        split at htake <;> cases htake
    | ok received t =>
        have htaken : WorkedOut (subject.Exposes given s) s t := take_workedOut htake
        unfold closed
        rw [Action.after_bind htake]
        cases received with
        | disconnected => exact htaken
        | empty => exact htaken
        | message v =>
            obtain ⟨number, hvalue, hv⟩ := take_message htake
            have hshown : WorkedOut (subject.Exposes given s) t
                ((ReasonLog.ask v.asked : Action σ Unit).after t) :=
              .ask (fun _ hreason => .message hvalue hv hreason) t
            exact htaken.trans hshown
  failureText subject := .expectationOf _ rfl
  negatedText subject := .expectationOf _ rfl
  hint subject := .pure _

/-! ### Values and outcomes -/

theorem ofSubject_accounts [ReasonsApart σ] (holds : Datum → Bool) (words negatedWords : String) :
    (ofSubject holds words negatedWords : Judge σ Datum).Accounts given where
  verdict _ := .pure _
  failureText _ := .expectationOf _ rfl
  negatedText _ := .expectationOf _ rfl
  hint _ := .pure _

/-- An expectation that compares the subject with something shows both. -/
theorem expectation_asks [ReasonsApart σ] {shown other : Datum} (relation : String)
    (hshown : shown.value.asked = subject.value.asked)
    (hother : ∀ reason ∈ other.value.asked, reason ∈ given) :
    Asks given subject (expectation shown relation other : Action σ String) := by
  have hasked : ∀ reason ∈ Subject.asked shown ++ Subject.asked other,
      reason ∈ subject.value.asked ∨ reason ∈ given := by
    intro reason hreason
    rcases List.mem_append.1 hreason with hreason | hreason
    · exact .inl (hshown ▸ hreason)
    · exact .inr (hother reason hreason)
  exact (Asks.ask hasked).bind fun _ _ _ _ => .pure _

theorem compared_accounts [ReasonsApart σ] (relation : Relation) {other : Datum}
    (h : ∀ reason ∈ other.value.asked, reason ∈ given) :
    (compared relation other : Judge σ Datum).Accounts given where
  verdict _ := .pure _
  failureText _ := expectation_asks _ rfl h
  negatedText _ := expectation_asks _ rfl h
  hint _ := .pure _

theorem containsText_accounts [ReasonsApart σ] (part : String) :
    (containsText part : Judge σ Datum).Accounts given where
  verdict subject := by
    obtain ⟨type, value⟩ := subject
    cases value <;> exact .pure _
  failureText _ := expectation_asks _ rfl fun _ h => by cases h
  negatedText _ := expectation_asks _ rfl fun _ h => by cases h
  hint _ := .pure _

omit [ReasonLog σ] [HasReasons σ] [HasChannels σ] in
/-- The text of a failure works out what the error contains. -/
theorem asked_of_failure? {report : String} {asked : List String}
    (h : subject.failure? = some (report, asked)) :
    ∀ reason ∈ asked, reason ∈ subject.value.asked := by
  obtain ⟨type, value⟩ := subject
  unfold Datum.failure? at h
  split at h
  · cases h
    exact fun _ hreason => by cases hreason
  · rename_i e hvalue
    cases h
    have hasked : e.plainAsked = value.asked := by
      rw [show value = .error e from hvalue]
      cases e <;> rfl
    rw [hasked]
    exact fun _ hreason => hreason
  · cases h

omit [ReasonLog σ] [HasReasons σ] [HasChannels σ] in
theorem asked_of_success? {success : Datum} (h : subject.success? = some success) :
    success.value.asked = subject.value.asked := by
  obtain ⟨type, value⟩ := subject
  unfold Datum.success? at h
  split at h
  · rename_i v _ hvalue
    cases h
    rw [show value = .ok v from hvalue]
    rfl
  · cases h

/-- What is asked about the text of a failure. -/
theorem report_asks [ReasonsApart σ] {α : Type} {report : String} {asked : List String}
    {x : Action σ α} (h : subject.failure? = some (report, asked))
    (hx : Asks given (.ofString report) x) :
    Asks given subject (ReasonLog.ask asked >>= fun _ => x) :=
  (Asks.ask fun reason hreason => .inl (asked_of_failure? h reason hreason)).bind
    fun _ _ _ _ => hx.of_text

theorem succeeds_accounts [ReasonsApart σ] : (succeeds : Judge σ Datum).Accounts given where
  verdict _ := .pure _
  failureText subject := by
    cases hfailure : subject.failure? with
    | some failure =>
        obtain ⟨report, asked⟩ := failure
        simp only [succeeds, hfailure]
        exact report_asks hfailure (.pure _)
    | none =>
        cases hsuccess : subject.success? with
        | some success =>
            simp only [succeeds, hfailure, hsuccess]
            exact .expectationOf _ (asked_of_success? hsuccess)
        | none =>
            simp only [succeeds, hfailure, hsuccess]
            exact .pure _
  negatedText _ := .pure _
  hint _ := .pure _

/-- A question that is passed on with the text of a failure, if there is one. -/
theorem asks_of_failure? [ReasonsApart σ] {α : Type} {x : Action σ α} (otherwise : α)
    (question : String → Action σ α) (hnone : subject.failure? = none → x = pure otherwise)
    (hsome : ∀ report asked, subject.failure? = some (report, asked) →
      x = ReasonLog.ask asked >>= fun _ => question report)
    (hquestion : ∀ report, Asks given (.ofString report) (question report)) :
    Asks given subject x := by
  cases hfailure : subject.failure? with
  | none =>
      rw [hnone hfailure]
      exact .pure otherwise
  | some failure =>
      obtain ⟨report, asked⟩ := failure
      rw [hsome report asked hfailure]
      exact report_asks hfailure (hquestion report)

theorem failsWith_accounts [ReasonsApart σ] (h : judge.Accounts given) :
    (failsWith judge).Accounts given where
  verdict subject := by
    apply asks_of_failure? (.ok false) fun report => judge.verdict (.ofString report)
    · intro hfailure
      simp only [failsWith, hfailure]
    · intro report asked hfailure
      simp only [failsWith, hfailure]
    · exact fun report => h.verdict _
  failureText subject := by
    apply asks_of_failure? _ fun report => judge.failureText (.ofString report)
    · intro hfailure
      simp only [failsWith, hfailure]
      rfl
    · intro report asked hfailure
      simp only [failsWith, hfailure]
    · exact fun report => h.failureText _
  negatedText subject := by
    apply asks_of_failure? _ fun report => judge.negatedText (.ofString report)
    · intro hfailure
      simp only [failsWith, hfailure]
      rfl
    · intro report asked hfailure
      simp only [failsWith, hfailure]
    · exact fun report => h.negatedText _
  hint _ := .pure _

/-! ### Combinations -/

theorem negation_accounts (h : judge.Accounts given) : judge.negation.Accounts given where
  verdict subject := (h.verdict subject).bind fun _ _ _ _ => .pure _
  failureText subject := h.negatedText subject
  negatedText subject := h.failureText subject
  hint _ := .pure _

section

variable (h : ∀ judge ∈ judges, judge.Accounts given)

include h

theorem consultWhile_asks (expected : Bool) (subject : Datum) :
    Asks given subject (consultWhile expected subject judges) := by
  induction judges with
  | nil => exact .pure _
  | cons judge others ih =>
      unfold consultWhile
      refine ((h judge (by simp)).verdict subject).bind fun verdict _ _ _ => ?_
      cases verdict with
      | error e => exact .pure _
      | ok verdict =>
          by_cases hexpected : verdict = expected
          · simp only [hexpected, if_true]
            exact ih fun other hother => h other (by simp [hother])
          · simp only [hexpected, if_false]
            exact .pure _

theorem firstWith_asks (wanted : Except MatchError Bool → Bool) (subject : Datum) :
    Asks given subject (firstWith wanted subject judges) := by
  induction judges with
  | nil => exact .pure _
  | cons judge others ih =>
      unfold firstWith
      refine ((h judge (by simp)).verdict subject).bind fun verdict _ _ _ => ?_
      split
      · exact .pure _
      · exact ih fun other hother => h other (by simp [hother])

theorem failureTexts_asks (subject : Datum) : Asks given subject (failureTexts subject judges) := by
  induction judges with
  | nil => exact .pure _
  | cons judge others ih =>
      unfold failureTexts
      refine ((h judge (by simp)).failureText subject).bind fun text _ _ _ => ?_
      exact (ih fun other hother => h other (by simp [hother])).bind fun _ _ _ _ => .pure _

end

omit [ReasonLog σ] [HasReasons σ] [HasChannels σ] in
/-- The member that is found is a member. -/
theorem mem_of_firstWith {wanted : Except MatchError Bool → Bool} {s t : σ}
    (h : firstWith wanted subject judges s = .ok (some judge) t) : judge ∈ judges := by
  induction judges generalizing s with
  | nil => cases h
  | cons first others ih =>
      unfold firstWith at h
      obtain ⟨verdict, u, -, h⟩ := Action.bind_eq_ok_iff.1 h
      split at h
      · cases h
        exact List.mem_cons_self
      · exact List.mem_cons_of_mem _ (ih h)

theorem allOf_accounts [ReasonsApart σ] (h : ∀ judge ∈ judges, judge.Accounts given) :
    (allOf judges).Accounts given where
  verdict subject := consultWhile_asks h true subject
  failureText subject := by
    refine (firstWith_asks h _ subject).bind fun found s t hfound => ?_
    cases found with
    | none => exact .expectationOf _ rfl
    | some judge => exact (h judge (mem_of_firstWith hfound)).failureText subject
  negatedText _ := .expectationOf _ rfl
  hint subject := by
    refine (firstWith_asks h _ subject).bind fun found s t hfound => ?_
    cases found with
    | none => exact .pure _
    | some judge => exact (h judge (mem_of_firstWith hfound)).hint subject

theorem anyOf_accounts [ReasonsApart σ] (h : ∀ judge ∈ judges, judge.Accounts given) :
    (anyOf judges).Accounts given where
  verdict subject := consultWhile_asks h false subject
  failureText subject :=
    (failureTexts_asks h subject).bind fun _ _ _ _ =>
      (Asks.expectationOf _ rfl).bind fun _ _ _ _ => .pure _
  negatedText subject := by
    refine (firstWith_asks h _ subject).bind fun found s t hfound => ?_
    cases found with
    | none => exact .expectationOf _ rfl
    | some judge => exact (h judge (mem_of_firstWith hfound)).negatedText subject
  hint _ := .pure _

/-- A matcher of the library works out what its subject exposes, and nothing else. -/
theorem Own.accounts [ReasonsApart σ] (h : judge.Own given) : judge.Accounts given := by
  induction h with
  | compared relation hother => exact compared_accounts relation hother
  | containsText part => exact containsText_accounts part
  | satisfies predicate description => exact ofSubject_accounts _ _ _
  | isAbsent => exact ofSubject_accounts _ _ _
  | isPresent => exact ofSubject_accounts _ _ _
  | succeeds => exact succeeds_accounts
  | failsWith _ ih => exact failsWith_accounts ih
  | receives observer => exact receives_accounts observer
  | closed => exact closed_accounts
  | negation _ ih => exact negation_accounts ih
  | allOf _ ih => exact allOf_accounts ih
  | anyOf _ ih => exact anyOf_accounts ih

/-! ### Texts that show their subject -/

/-- The judges of values whose texts show the subject, whatever is wrong with it. A combination
may show another text, and a judge of failures only looks into the error. -/
inductive Telling : Judge σ Datum → Prop
  | compared (relation : Relation) (other : Datum) : Telling (compared relation other)
  | containsText (part : String) : Telling (containsText part)
  | satisfies (predicate : Value → Bool) (description : String) :
      Telling (satisfies predicate description)
  | isAbsent : Telling isAbsent
  | isPresent : Telling isPresent
  | negation {judge : Judge σ Datum} : Telling judge → Telling judge.negation

section

variable {positive : Bool} {text said relation : String} {asked : List String} {s t : σ}

omit [HasChannels σ] in
theorem mem_reasons_of_ask
    (h : (ReasonLog.ask asked >>= fun _ => pure said : Action σ String) s = .ok text t) :
    ∀ reason ∈ asked, reason ∈ reasons t := by
  obtain ⟨_, u, hask, hreturn⟩ := Action.bind_eq_ok_iff.1 h
  cases hreturn
  rw [← Action.after_ok hask, reasons_ask]
  exact fun reason hreason => List.mem_append_left _ (List.mem_reverse.2 hreason)

omit [HasChannels σ] in
theorem mem_reasons_of_expectationOf (h : expectationOf subject relation s = .ok text t) :
    ∀ reason ∈ subject.value.asked, reason ∈ reasons t :=
  mem_reasons_of_ask h

omit [HasChannels σ] in
theorem mem_reasons_of_expectation {other : Datum}
    (h : expectation subject relation other s = .ok text t) :
    ∀ reason ∈ subject.value.asked, reason ∈ reasons t :=
  fun reason hreason => mem_reasons_of_ask h reason (List.mem_append_left _ hreason)

omit [HasChannels σ] in
/-- Whoever has such a text has worked out all deferred reasons in the subject. -/
theorem Telling.mem_reasons (h : judge.Telling)
    (htext : judge.textFor positive subject s = .ok text t) :
    ∀ reason ∈ subject.value.asked, reason ∈ reasons t := by
  induction h generalizing positive with
  | compared => cases positive <;> exact mem_reasons_of_expectation htext
  | containsText part =>
      -- the subject is shown with another type, but its value is the same
      have hshown : ∀ reason ∈ ({ subject with type := .text } : Datum).value.asked,
          reason ∈ reasons t := by
        cases positive <;> exact mem_reasons_of_expectation htext
      exact hshown
  | satisfies | isAbsent | isPresent =>
      cases positive <;> exact mem_reasons_of_expectationOf htext
  | @negation judge _ ih =>
      have hother : judge.textFor (!positive) subject s = .ok text t := by
        cases positive <;> exact htext
      exact ih hother

end

end Judge

/-- The matchers of the library for a probe. Success and failure are also judged by the
outcome of a probe that returns nothing. -/
inductive Matcher.Own (given : List String) : Matcher σ Datum → Prop
  | ofJudge {judge : Judge σ Datum} : judge.Own given → Own given judge.toMatcher
  | succeeds : Own given succeeds
  | failsWith {judge : Judge σ Datum} : judge.Own given → Own given (failsWith judge)

/-- Such a matcher judges an outcome, if at all, as it judges values. -/
theorem Matcher.Own.judges [ReasonsApart σ] {given : List String} {matcher : Matcher σ Datum}
    (h : matcher.Own given) : matcher.toJudge.Accounts given ∧
      ∀ outcomes, matcher.callback = some outcomes →
        outcomes = matcher.toJudge.comap Datum.ofOutcome := by
  cases h with
  | ofJudge hown =>
      refine ⟨hown.accounts, fun outcomes hcallback => ?_⟩
      cases hcallback
  | succeeds =>
      refine ⟨Judge.succeeds_accounts, fun outcomes hcallback => ?_⟩
      cases hcallback
      rfl
  | failsWith hown =>
      refine ⟨Judge.failsWith_accounts hown.accounts, fun outcomes hcallback => ?_⟩
      cases hcallback
      rfl

end PollingAssertions
