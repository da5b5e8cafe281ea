import Mathlib.Logic.Relation
import PollingAssertions.Matcher.Channel
import PollingAssertions.Session.World

/-!
# Traffic on a channel

While a matcher waits for a message, others hold the sender of the channel. They can
send and they can drop it, at any time and in any order; the matcher takes messages
out. What they all do to the channel is followed by one relation, `Flow`: it keeps
account of what was sent, what was taken and what is still queued, and it knows that
a channel whose sender is gone is given nothing more. `Flow` composes, so everything
that holds of single deeds and questions holds of any sequence of them.

A channel that is empty and closed is dead: it stays so. The matcher remembers having
seen that, and so it can promise that nothing will ever come.

## Main definitions

* `SenderDeed`, `Channel.after`, `Channel.accepted` — what others do with a sender, what
  becomes of the channel and which messages it takes on.
* `Channel.Dead` — nothing will ever come out of the channel.
* `Fed` — others have done something, and nobody else.
* `Flow` — the account of a channel between two worlds.
* `Stirs` — others act, or the matcher is asked something.

## Main results

* `Flow.trans`, `Flow.dead` — accounts add up, and dead channels stay dead.
* `Judge.receives_verdict` — what the matcher finds and takes.
* `Judge.receives_false_of_hint` — once the matcher has given a hint, it never matches
  again.
-/

namespace PollingAssertions

/-- What others can do with the sender of a channel. -/
inductive SenderDeed where
  | send (v : Value)
  | drop

namespace Channel

/-- The channel after some deeds. -/
def after (channel : Channel) : List SenderDeed → Channel
  | [] => channel
  | .send v :: deeds => (channel.send v).after deeds
  | .drop :: deeds => channel.close.after deeds

/-- The messages that the channel takes on in the course of some deeds. -/
def accepted (channel : Channel) : List SenderDeed → List Value
  | [] => []
  | .send v :: deeds =>
      if channel.isOpen then v :: (channel.send v).accepted deeds else channel.accepted deeds
  | .drop :: deeds => channel.close.accepted deeds

/-- Nothing is in the channel and nothing can come. -/
def Dead (channel : Channel) : Prop := channel.queue = [] ∧ channel.isOpen = false

variable {channel : Channel}

/-- Messages queue up in the order in which they are sent. -/
theorem queue_after (channel : Channel) (deeds : List SenderDeed) :
    (channel.after deeds).queue = channel.queue ++ channel.accepted deeds := by
  induction deeds generalizing channel with
  | nil => simp [after, accepted]
  | cons deed deeds ih =>
      cases deed with
      | drop => exact ih channel.close
      | send v =>
          unfold after accepted
          by_cases hopen : channel.isOpen = true
          · rw [if_pos hopen, ih]
            simp [send, hopen]
          · have hsend : channel.send v = channel := by
              unfold send
              rw [if_neg hopen]
            rw [if_neg hopen, hsend]
            exact ih channel

/-- Without a sender nothing can be done. -/
theorem after_of_closed (h : channel.isOpen = false) (deeds : List SenderDeed) :
    channel.after deeds = channel ∧ channel.accepted deeds = [] := by
  induction deeds with
  | nil => exact ⟨rfl, rfl⟩
  | cons deed deeds ih =>
      have hsend : ∀ v, channel.send v = channel := by
        intro v
        unfold send
        rw [h, if_neg Bool.false_ne_true]
      have hclose : channel.close = channel := by
        unfold close
        rw [← h]
      cases deed with
      | send v =>
          unfold after accepted
          rw [hsend, h, if_neg Bool.false_ne_true]
          exact ih
      | drop =>
          unfold after accepted
          rw [hclose]
          exact ih

end Channel

namespace Channels

/-- The channel of a number. One that is not there is as good as dead. -/
def channel (number : Nat) (cs : Channels) : Channel := (cs.channels[number]?).getD ⟨[], false⟩

/-- To take a message concerns one channel only, and nobody's memory. -/
theorem tryReceive_channel (number : Nat) (cs : Channels) :
    (cs.tryReceive number).1 = (cs.channel number).tryReceive.1 ∧
      (cs.tryReceive number).2.channel number = (cs.channel number).tryReceive.2 ∧
      (cs.tryReceive number).2.seenClosed = cs.seenClosed := by
  unfold tryReceive
  cases hnumber : cs.channels[number]? with
  | none => simp [Channels.channel, hnumber, Channel.tryReceive]
  | some channel =>
      obtain ⟨hlt, _⟩ := Array.getElem?_eq_some_iff.1 hnumber
      have hchannel : cs.channel number = channel := by simp [Channels.channel, hnumber]
      rw [hchannel]
      refine ⟨rfl, ?_, rfl⟩
      simp [Channels.channel, hlt]

/-- What is done to a channel that is open is done to it. -/
theorem channel_update (number : Nat) (f : Channel → Channel) {cs : Channels}
    (h : (cs.channel number).isOpen = true) :
    (cs.update number f).channel number = f (cs.channel number) := by
  cases hnumber : cs.channels[number]? with
  | none => simp [Channels.channel, hnumber] at h
  | some channel =>
      obtain ⟨hlt, hget⟩ := Array.getElem?_eq_some_iff.1 hnumber
      simp [update, Channels.channel, hlt, hget]

theorem seenClosed_update (number : Nat) (f : Channel → Channel) (cs : Channels) :
    (cs.update number f).seenClosed = cs.seenClosed := by
  unfold update
  split
  · rfl
  · rfl

theorem sawClosed_noteClosed (observer : Nat) (cs : Channels) :
    (cs.noteClosed observer).sawClosed observer = true := by
  unfold noteClosed
  split
  · assumption
  · simp [sawClosed]

theorem channel_noteClosed (number observer : Nat) (cs : Channels) :
    (cs.noteClosed observer).channel number = cs.channel number := by
  unfold noteClosed
  split
  · rfl
  · rfl

end Channels

/-! ## The account of a channel -/

section

variable {σ : Type} [HasChannels σ]

namespace HasChannels

/-- The channel of a number in a world. -/
def channelIn (number : Nat) (s : σ) : Channel := (part.get s).channel number

/-- Whether a matcher remembers in a world that its channel is closed. -/
def sawClosedIn (observer : Nat) (s : σ) : Bool := (part.get s).sawClosed observer

end HasChannels

open HasChannels

/-- Others have used the sender of a channel, and have touched neither its receiver nor
the memory of the matcher. A world keeps a list of the messages that it has `sent`. -/
structure Fed (sent : σ → List Value) (number observer : Nat) (v w : σ) : Prop where
  deeds : ∃ deeds, channelIn number w = (channelIn number v).after deeds ∧
    sent w = sent v ++ (channelIn number v).accepted deeds
  sawClosed_eq : sawClosedIn observer w = sawClosedIn observer v

/-- Between two worlds so many messages were taken out of a channel: what was in it and
what has come in since is what was taken and what is left. Nothing comes in without a
sender, and only a dead channel is remembered as closed. -/
structure Flow (sent : σ → List Value) (number observer : Nat) (taken : List Value) (v w : σ) :
    Prop where
  account : ∃ new, sent w = sent v ++ new ∧
    (channelIn number v).queue ++ new = taken ++ (channelIn number w).queue
  of_closed : (channelIn number v).isOpen = false →
    (channelIn number w).isOpen = false ∧ sent w = sent v
  of_sawClosed : sawClosedIn observer w = true →
    sawClosedIn observer v = true ∨ (channelIn number w).Dead

variable {sent : σ → List Value} {number observer : Nat} {taken taken' : List Value} {u v w : σ}

namespace Flow

theorem refl (v : σ) : Flow sent number observer [] v v where
  account := ⟨[], by simp, by simp⟩
  of_closed h := ⟨h, rfl⟩
  of_sawClosed h := .inl h

/-- A dead channel stays dead. -/
theorem dead (h : Flow sent number observer taken v w) (hdead : (channelIn number v).Dead) :
    (channelIn number w).Dead := by
  obtain ⟨new, hsent, hqueue⟩ := h.account
  obtain ⟨hclosed, hsame⟩ := h.of_closed hdead.2
  have hnew : new = [] := by simpa [hsame] using hsent
  rw [hdead.1, hnew] at hqueue
  exact ⟨(List.append_eq_nil_iff.1 hqueue.symm).2, hclosed⟩

theorem trans (h : Flow sent number observer taken u v) (h' : Flow sent number observer taken' v w) :
    Flow sent number observer (taken ++ taken') u w where
  account := by
    obtain ⟨new, hsent, hqueue⟩ := h.account
    obtain ⟨new', hsent', hqueue'⟩ := h'.account
    refine ⟨new ++ new', by rw [hsent', hsent, List.append_assoc], ?_⟩
    rw [← List.append_assoc, hqueue, List.append_assoc, hqueue', List.append_assoc]
  of_closed hclosed := by
    obtain ⟨hclosed, hsent⟩ := h.of_closed hclosed
    obtain ⟨hclosed, hsent'⟩ := h'.of_closed hclosed
    exact ⟨hclosed, hsent'.trans hsent⟩
  of_sawClosed hsaw := by
    rcases h'.of_sawClosed hsaw with hsaw | hdead
    · exact (h.of_sawClosed hsaw).imp_right h'.dead
    · exact .inr hdead

/-- The matcher is right in what it remembers. -/
theorem sound (h : Flow sent number observer taken v w)
    (hsound : sawClosedIn observer v = true → (channelIn number v).Dead) :
    sawClosedIn observer w = true → (channelIn number w).Dead := by
  intro hsaw
  rcases h.of_sawClosed hsaw with hsaw | hdead
  · exact h.dead (hsound hsaw)
  · exact hdead

end Flow

/-- Nothing has happened to the channel. -/
theorem Flow.of_eq (hchannel : channelIn number w = channelIn number v) (hsent : sent w = sent v)
    (hsaw : sawClosedIn observer w = true →
      sawClosedIn observer v = true ∨ (channelIn number v).Dead) :
    Flow sent number observer [] v w where
  account := ⟨[], by rw [hsent, List.append_nil], by rw [hchannel]; simp⟩
  of_closed hclosed := ⟨by rw [hchannel]; exact hclosed, hsent⟩
  of_sawClosed h := by
    rw [hchannel]
    exact hsaw h

theorem Fed.refl (v : σ) : Fed sent number observer v v :=
  ⟨⟨[], rfl, (List.append_nil _).symm⟩, rfl⟩

/-- Others take nothing out. -/
theorem Fed.flow (h : Fed sent number observer v w) : Flow sent number observer [] v w where
  account := by
    obtain ⟨deeds, hchannel, hsent⟩ := h.deeds
    exact ⟨_, hsent, by rw [hchannel, Channel.queue_after, List.nil_append]⟩
  of_closed hclosed := by
    obtain ⟨deeds, hchannel, hsent⟩ := h.deeds
    obtain ⟨hafter, haccepted⟩ := Channel.after_of_closed hclosed deeds
    rw [hafter] at hchannel
    rw [haccepted, List.append_nil] at hsent
    exact ⟨by rw [hchannel, hclosed], hsent⟩
  of_sawClosed hsaw := .inl (h.sawClosed_eq ▸ hsaw)

/-! ## What the matcher does -/

variable [ReasonLog σ]

namespace Judge

/-- Why nothing was received can always be said; the reasons that showing the subject works
out are all that happens. -/
theorem receivesText_returns (observer : Nat) (subject : Datum) (s : σ) :
    ∃ text, receivesText observer subject s =
      .ok text (subject.value.asked.foldl (fun s reason => ReasonLog.workedOut reason s) s) := by
  have hexpectation : expectationOf subject "to receive something." s =
      .ok _ (subject.value.asked.foldl (fun s reason => ReasonLog.workedOut reason s) s) := rfl
  have hseen : ∀ t : σ, hasSeenClosed observer t = .ok (sawClosedIn observer t) t := fun _ => rfl
  unfold receivesText
  rw [Action.bind_ok hexpectation, Action.bind_ok (hseen _)]
  split
  · exact ⟨_, rfl⟩
  · exact ⟨_, rfl⟩

/-- Asked for a hint, `receives` gives one if it has seen its channel closed. -/
theorem receives_hint_eq (observer : Nat) (subject : Datum) (s : σ) :
    (receives observer).hint subject s =
      if sawClosedIn observer s then
        (receivesText observer subject >>= fun text => return some text) s
      else .ok none s := by
  have hseen : hasSeenClosed observer s = .ok (sawClosedIn observer s) s := rfl
  have hhint : (receives observer).hint subject s = _ := Action.bind_ok hseen
  rw [hhint]
  split
  · rfl
  · rfl

variable {type : Ty}

/-- A hint is given if the channel was seen closed, and nothing else happens. -/
theorem receives_hint (type : Ty) (number observer : Nat) (s : σ) :
    ∃ hint?, (receives observer).hint ⟨type, .receiver number⟩ s = .ok hint? s ∧
      (hint?.isSome = true ↔ sawClosedIn observer s = true) := by
  rw [receives_hint_eq]
  split
  · rename_i hsaw
    obtain ⟨text, htext⟩ := receivesText_returns observer ⟨type, .receiver number⟩ s
    rw [Action.bind_ok htext]
    exact ⟨some text, rfl, by simp [hsaw]⟩
  · rename_i hsaw
    exact ⟨none, rfl, by simp [hsaw]⟩

omit [ReasonLog σ] in
/-- Taking a message concerns the channel only. -/
theorem take_receiver (type : Ty) (number observer : Nat)
    (hsent : ∀ channels s, sent (HasChannels.part.set channels s) = sent s) (s : σ) :
    ∃ t, take ⟨type, .receiver number⟩ s = .ok (channelIn number s).tryReceive.1 t ∧
      channelIn number t = (channelIn number s).tryReceive.2 ∧
      sawClosedIn observer t = sawClosedIn observer s ∧ sent t = sent s := by
  obtain ⟨hreceived, hchannel, hseen⟩ := (HasChannels.part.get s).tryReceive_channel number
  refine ⟨HasChannels.part.set ((HasChannels.part.get s).tryReceive number).2 s, ?_, ?_, ?_,
    hsent _ _⟩
  · unfold channelIn
    rw [← hreceived]
    rfl
  · unfold channelIn
    rw [HasChannels.part.get_set]
    exact hchannel
  · unfold sawClosedIn Channels.sawClosed
    rw [HasChannels.part.get_set, hseen]

/-- The matcher matches exactly if a message is queued, and takes it. It remembers from then
on if the channel is dead. -/
theorem receives_verdict (type : Ty) (number observer : Nat)
    (hsent : ∀ channels s, sent (HasChannels.part.set channels s) = sent s) (s : σ) :
    ∃ verdict taken t, (receives observer).verdict ⟨type, .receiver number⟩ s =
        .ok (.ok verdict) t ∧ Flow sent number observer taken s t ∧
      taken.length = verdict.toNat ∧
      (verdict = true ↔ (channelIn number s).queue ≠ []) ∧
      (sawClosedIn observer t = true ↔
        sawClosedIn observer s = true ∨ (channelIn number s).Dead) := by
  obtain ⟨t, htake, hchannel, hsaw, hsame⟩ := take_receiver type number observer hsent s
  cases hqueue : (channelIn number s).queue with
  | cons message queue =>
      have hreceive : (channelIn number s).tryReceive =
          (.message message, { channelIn number s with queue }) := by
        unfold Channel.tryReceive
        rw [hqueue]
      rw [hreceive] at htake hchannel
      refine ⟨true, [message], t, Action.bind_ok htake, ?_, rfl, by simp, ?_⟩
      · exact
          { account := ⟨[], by rw [hsame, List.append_nil], by rw [hchannel, hqueue]; simp⟩
            of_closed := fun hclosed => ⟨by rw [hchannel]; exact hclosed, hsame⟩
            of_sawClosed := fun h => .inl (hsaw ▸ h) }
      · simp [hsaw, Channel.Dead, hqueue]
  | nil =>
      cases hopen : (channelIn number s).isOpen with
      | true =>
          have hreceive : (channelIn number s).tryReceive = (.empty, channelIn number s) := by
            unfold Channel.tryReceive
            rw [hqueue, hopen]
            rfl
          rw [hreceive] at htake hchannel
          refine ⟨false, [], t, Action.bind_ok htake, ?_, rfl, by simp, ?_⟩
          · exact .of_eq hchannel hsame fun h => .inl (hsaw ▸ h)
          · simp [hsaw, Channel.Dead, hopen]
      | false =>
          have hreceive : (channelIn number s).tryReceive = (.disconnected, channelIn number s) := by
            unfold Channel.tryReceive
            rw [hqueue, hopen]
            rfl
          rw [hreceive] at htake hchannel
          let noted : σ := HasChannels.part.update (Channels.noteClosed observer) t
          have hnoted : channelIn number noted = channelIn number s := by
            unfold channelIn
            rw [Part.get_update, Channels.channel_noteClosed]
            exact hchannel
          have hremembered : sawClosedIn observer noted = true := by
            unfold sawClosedIn
            rw [Part.get_update]
            exact Channels.sawClosed_noteClosed _ _
          have hdead : (channelIn number s).Dead := ⟨hqueue, hopen⟩
          have hsentNoted : sent noted = sent s := (hsent _ _).trans hsame
          refine ⟨false, [], noted, Action.bind_ok htake, ?_, rfl, by simp, ?_⟩
          · exact .of_eq hnoted hsentNoted fun _ => .inr hdead
          · simp [hremembered, hdead]

end Judge

/-- Something happens to a world in which a matcher waits at a channel: others act, or the
matcher is asked one of its questions. -/
inductive Stirs (sent : σ → List Value) (number observer : Nat) (type : Ty) (v w : σ) : Prop
  | others : Fed sent number observer v w → Stirs sent number observer type v w
  | verdict {answer : Except MatchError Bool} :
      (Judge.receives observer).verdict ⟨type, .receiver number⟩ v = .ok answer w →
      Stirs sent number observer type v w
  | failureText {text : String} :
      (Judge.receives observer).failureText ⟨type, .receiver number⟩ v = .ok text w →
      Stirs sent number observer type v w
  | negatedText {text : String} :
      (Judge.receives observer).negatedText ⟨type, .receiver number⟩ v = .ok text w →
      Stirs sent number observer type v w
  | hint {hint? : Option String} :
      (Judge.receives observer).hint ⟨type, .receiver number⟩ v = .ok hint? w →
      Stirs sent number observer type v w

variable {type : Ty}

theorem Stirs.flow (hsent : ∀ channels s, sent (HasChannels.part.set channels s) = sent s)
    (h : Stirs sent number observer type v w) : ∃ taken, Flow sent number observer taken v w := by
  cases h with
  | others hfed => exact ⟨[], hfed.flow⟩
  | verdict hverdict =>
      obtain ⟨_, taken, t, hreceives, hflow, _⟩ :=
        Judge.receives_verdict type number observer hsent v
      cases hverdict.symm.trans hreceives
      exact ⟨taken, hflow⟩
  | failureText htext =>
      obtain ⟨_, hsays⟩ := Judge.receivesText_returns observer ⟨type, .receiver number⟩ v
      cases htext.symm.trans hsays
      exact ⟨[], .refl v⟩
  | negatedText htext =>
      cases htext
      exact ⟨[], .refl v⟩
  | hint hhint =>
      obtain ⟨_, hgives, _⟩ := Judge.receives_hint type number observer v
      cases hhint.symm.trans hgives
      exact ⟨[], .refl v⟩

/-- Whatever happens, in whatever order, the account of the channel can be drawn up. -/
theorem Stirs.flow_of_reflTransGen
    (hsent : ∀ channels s, sent (HasChannels.part.set channels s) = sent s)
    (h : Relation.ReflTransGen (Stirs sent number observer type) v w) :
    ∃ taken, Flow sent number observer taken v w := by
  induction h with
  | refl => exact ⟨[], .refl v⟩
  | tail _ hstirs ih =>
      obtain ⟨taken, hflow⟩ := ih
      obtain ⟨taken', hflow'⟩ := hstirs.flow hsent
      exact ⟨taken ++ taken', hflow.trans hflow'⟩

/-- Once a matcher that was right in what it remembers has given a hint, it never matches
again, whatever others do and whatever it is asked in between. -/
theorem Judge.receives_false_of_hint
    (hsent : ∀ channels s, sent (HasChannels.part.set channels s) = sent s) {s : σ} {text : String}
    (hsound : sawClosedIn observer s = true → (channelIn number s).Dead)
    (hbefore : Relation.ReflTransGen (Stirs sent number observer type) s v)
    (hhint : (receives observer).hint ⟨type, .receiver number⟩ v = .ok (some text) u)
    (hafter : Relation.ReflTransGen (Stirs sent number observer type) u w) :
    ∃ t, (receives observer).verdict ⟨type, .receiver number⟩ w = .ok (.ok false) t := by
  obtain ⟨_, hflow⟩ := Stirs.flow_of_reflTransGen hsent hbefore
  obtain ⟨hint?, hgives, hsome⟩ := receives_hint type number observer v
  cases hhint.symm.trans hgives
  -- the channel was dead when the hint was given
  have hdead : (channelIn number u).Dead := hflow.sound hsound (hsome.1 rfl)
  obtain ⟨_, hflow'⟩ := Stirs.flow_of_reflTransGen hsent hafter
  obtain ⟨verdict, _, t, hverdict, _, _, hmatches, _⟩ :=
    receives_verdict type number observer hsent w
  cases verdict with
  | false => exact ⟨t, hverdict⟩
  | true => exact absurd (hflow'.dead hdead).1 (hmatches.1 rfl)

end

/-! ## Worlds with a channel -/

/-- A world with one channel. -/
def Session.World.withChannel (queue : List Value) (isOpen : Bool) : Session.World :=
  HasChannels.part.update (fun cs => (cs.add ⟨queue, isOpen⟩).2) (.starting 0)

end PollingAssertions
