/-
Module: Integr8s.Lib.PubSub
Purpose: Publish and subscribe without a memory: a message goes to the
  subscriptions that its channel has at that moment and nowhere else.  What a
  subscriber has taken and what it still has ahead of it are together what was
  published on its channel since it subscribed.
Trusted boundary: none
Main exports: Subscription, PubSub, PubSub.publish, PubSub.subscribe,
  PubSub.unsubscribe, PubSub.next?, PubSub.Coherent, PubSub.Apart,
  PubSub.upTo
-/
import Mathlib.Logic.Function.Basic
import Mathlib.Data.List.Basic

/-- A subscription to a channel: the messages that were delivered and not
taken yet.  Besides, what no operation reads: how much had been published on
the channel before, and what was taken. -/
structure Subscription (Channel Message : Type) where
  channel : Channel
  since : Nat
  taken : List Message := []
  inbox : List Message := []

/-- What of a subscription only its own subscriber changes. -/
def Subscription.position {Channel Message : Type}
    (subscription : Subscription Channel Message) :
    Channel × Nat × List Message :=
  (subscription.channel, subscription.since, subscription.taken)

/-- The subscriptions, at most one for each subscriber, and everything that
was published on each channel, oldest first, which no operation reads. -/
structure PubSub (Channel Subscriber Message : Type) where
  published : Channel → List Message := fun _ => []
  subscriptions : Subscriber → Option (Subscription Channel Message) :=
    fun _ => none

namespace PubSub

variable {Channel Subscriber Message : Type}
  {bus before middle after : PubSub Channel Subscriber Message}

/-- Deliver a message to the channel's subscriptions. -/
def publish [DecidableEq Channel]
    (bus : PubSub Channel Subscriber Message) (channel : Channel)
    (message : Message) : PubSub Channel Subscriber Message where
  published := Function.update bus.published channel
    (bus.published channel ++ [message])
  subscriptions subscriber := (bus.subscriptions subscriber).map
    fun subscription =>
      if subscription.channel = channel then
        { subscription with inbox := subscription.inbox ++ [message] }
      else subscription

/-! ### Subscribers -/

section Subscribers

variable [DecidableEq Subscriber]

def subscribe (bus : PubSub Channel Subscriber Message)
    (subscriber : Subscriber) (channel : Channel) :
    PubSub Channel Subscriber Message :=
  { bus with
    subscriptions := Function.update bus.subscriptions subscriber
      (some { channel := channel, since := (bus.published channel).length }) }

/-- Give up a subscription with all that it has not taken. -/
def unsubscribe (bus : PubSub Channel Subscriber Message)
    (subscriber : Subscriber) : PubSub Channel Subscriber Message :=
  { bus with
    subscriptions := Function.update bus.subscriptions subscriber none }

/-- Take the oldest message that was delivered, if there is one. -/
def next? (bus : PubSub Channel Subscriber Message)
    (subscriber : Subscriber) :
    Option (Message × PubSub Channel Subscriber Message) :=
  match bus.subscriptions subscriber with
  | some { channel, since, taken, inbox := message :: inbox } =>
      some (message,
        { bus with
          subscriptions := Function.update bus.subscriptions subscriber
            (some
              { channel := channel
                since := since
                taken := taken ++ [message]
                inbox := inbox }) })
  | _ => none

end Subscribers

/-- The messages that a subscriber has not taken yet. -/
def ahead (bus : PubSub Channel Subscriber Message)
    (subscriber : Subscriber) : List Message :=
  (bus.subscriptions subscriber).elim [] Subscription.inbox

/-- What of a subscriber's subscription only the subscriber changes. -/
def position (bus : PubSub Channel Subscriber Message)
    (subscriber : Subscriber) : Option (Channel × Nat × List Message) :=
  (bus.subscriptions subscriber).map Subscription.position

/-- Every subscription has taken or still has ahead of it, in order, exactly
what was published on its channel since it began. -/
def Coherent (bus : PubSub Channel Subscriber Message) : Prop :=
  ∀ subscriber subscription,
    bus.subscriptions subscriber = some subscription →
      subscription.since ≤ (bus.published subscription.channel).length ∧
        subscription.taken ++ subscription.inbox =
          (bus.published subscription.channel).drop subscription.since

/-- A step apart from a subscriber: the channels only grow, and the subscriber
is where it was. -/
structure Apart (subscriber : Subscriber)
    (before after : PubSub Channel Subscriber Message) : Prop where
  grows : ∀ channel, before.published channel <+: after.published channel
  stays : after.position subscriber = before.position subscriber

namespace Apart

variable {subscriber : Subscriber}

theorem refl (bus : PubSub Channel Subscriber Message) :
    bus.Apart subscriber bus :=
  ⟨fun _ => List.prefix_rfl, rfl⟩

theorem trans (first : before.Apart subscriber middle)
    (second : middle.Apart subscriber after) :
    before.Apart subscriber after :=
  ⟨fun channel => (first.grows channel).trans (second.grows channel),
    second.stays.trans first.stays⟩

/-- A subscriber finds its subscription again, perhaps with more ahead of
it. -/
theorem finds (apart : before.Apart subscriber after)
    {subscription : Subscription Channel Message}
    (subscribed : before.subscriptions subscriber = some subscription) :
    ∃ inbox, after.subscriptions subscriber =
      some { subscription with inbox := inbox } := by
  have stays := apart.stays
  rw [position, position, subscribed, Option.map_some,
    Option.map_eq_some_iff] at stays
  obtain ⟨found, isFound, same⟩ := stays
  obtain ⟨channel, since, taken, inbox⟩ := found
  simp only [Subscription.position, Prod.mk.injEq] at same
  obtain ⟨rfl, rfl, rfl⟩ := same
  exact ⟨inbox, isFound⟩

/-- What was published before a subscription began does not change. -/
theorem earlier (apart : before.Apart subscriber after)
    (coherent : before.Coherent)
    {subscription : Subscription Channel Message}
    (subscribed : before.subscriptions subscriber = some subscription) :
    (after.published subscription.channel).take subscription.since =
      (before.published subscription.channel).take subscription.since := by
  obtain ⟨later, grown⟩ := apart.grows subscription.channel
  rw [← grown, List.take_append_of_le_length
    (coherent subscriber subscription subscribed).1]

end Apart

theorem coherent_empty :
    ({} : PubSub Channel Subscriber Message).Coherent := by
  intro subscriber subscription subscribed
  cases subscribed

/-- What is ahead of a subscriber was published on its channel. -/
theorem Coherent.split (coherent : bus.Coherent) {subscriber : Subscriber}
    {subscription : Subscription Channel Message}
    (subscribed : bus.subscriptions subscriber = some subscription) :
    bus.published subscription.channel =
      (bus.published subscription.channel).take subscription.since ++
        (subscription.taken ++ subscription.inbox) := by
  rw [(coherent subscriber subscription subscribed).2, List.take_append_drop]

/-! ### What publishing does -/

section Publishing

variable [DecidableEq Channel]

private theorem published_publish (channel : Channel) (message : Message) :
    (bus.publish channel message).published channel =
      bus.published channel ++ [message] := by
  simp [publish]

/-- Publishing is apart from every subscriber. -/
theorem apart_publish (subscriber : Subscriber) (channel : Channel)
    (message : Message) :
    bus.Apart subscriber (bus.publish channel message) := by
  constructor
  · intro other
    by_cases same : other = channel
    · subst same
      rw [published_publish]
      exact List.prefix_append _ _
    · simp [publish, Function.update_of_ne same]
  · simp only [position, publish, Option.map_map]
    congr 1
    funext subscription
    simp only [Function.comp_apply]
    split <;> rfl

theorem Coherent.publish (coherent : bus.Coherent) (channel : Channel)
    (message : Message) : (bus.publish channel message).Coherent := by
  intro subscriber subscription subscribed
  obtain ⟨earlier, isEarlier, rfl⟩ := Option.map_eq_some_iff.mp subscribed
  obtain ⟨bounded, same⟩ := coherent subscriber earlier isEarlier
  by_cases own : earlier.channel = channel
  · simp only [if_pos own]
    rw [own] at bounded same ⊢
    rw [published_publish, List.length_append, ← List.append_assoc, same,
      List.drop_append_of_le_length bounded]
    exact ⟨Nat.le_trans bounded (Nat.le_add_right _ _), rfl⟩
  · simp only [if_neg own, PubSub.publish, Function.update_of_ne own]
    exact ⟨bounded, same⟩

end Publishing

/-! ### What subscribers do -/

section Subscribing

variable [DecidableEq Subscriber]

/-- Another subscriber's subscription is its own affair. -/
private theorem apart_update {subscriber other : Subscriber}
    (different : other ≠ subscriber)
    (subscription : Option (Subscription Channel Message)) :
    bus.Apart other
      { bus with
        subscriptions :=
          Function.update bus.subscriptions subscriber subscription } := by
  refine ⟨fun _ => List.prefix_rfl, ?_⟩
  simp [position, Function.update_of_ne different]

private theorem Coherent.update (coherent : bus.Coherent)
    (subscriber : Subscriber)
    {changed : Option (Subscription Channel Message)}
    (own : ∀ subscription, changed = some subscription →
      subscription.since ≤ (bus.published subscription.channel).length ∧
        subscription.taken ++ subscription.inbox =
          (bus.published subscription.channel).drop subscription.since) :
    Coherent
      { bus with
        subscriptions :=
          Function.update bus.subscriptions subscriber changed } := by
  intro other subscription subscribed
  by_cases same : other = subscriber
  · subst same
    simp only [Function.update_self] at subscribed
    exact own subscription subscribed
  · simp only [Function.update_of_ne same] at subscribed
    exact coherent other subscription subscribed

theorem apart_subscribe {subscriber other : Subscriber}
    (different : other ≠ subscriber) (channel : Channel) :
    bus.Apart other (bus.subscribe subscriber channel) :=
  apart_update different _

theorem Coherent.subscribe (coherent : bus.Coherent)
    (subscriber : Subscriber) (channel : Channel) :
    (bus.subscribe subscriber channel).Coherent := by
  apply coherent.update
  intro subscription subscribed
  cases subscribed
  simp

theorem apart_unsubscribe {subscriber other : Subscriber}
    (different : other ≠ subscriber) :
    bus.Apart other (bus.unsubscribe subscriber) :=
  apart_update different _

theorem Coherent.unsubscribe (coherent : bus.Coherent)
    (subscriber : Subscriber) : (bus.unsubscribe subscriber).Coherent := by
  apply coherent.update
  intro subscription subscribed
  cases subscribed

/-- Taking a message moves it from what is ahead to what was taken. -/
theorem next_cases {subscriber : Subscriber} {message : Message}
    (taken : bus.next? subscriber = some (message, after)) :
    ∃ subscription inbox,
      bus.subscriptions subscriber = some subscription ∧
      subscription.inbox = message :: inbox ∧
      after =
        { bus with
          subscriptions := Function.update bus.subscriptions subscriber
            (some
              { subscription with
                taken := subscription.taken ++ [message]
                inbox := inbox }) } := by
  unfold next? at taken
  split at taken
  · next channel since earlier head inbox subscribed =>
      cases taken
      exact ⟨_, inbox, subscribed, rfl, rfl⟩
  · cases taken

theorem apart_next {subscriber other : Subscriber} {message : Message}
    (different : other ≠ subscriber)
    (taken : bus.next? subscriber = some (message, after)) :
    bus.Apart other after := by
  obtain ⟨subscription, inbox, -, -, rfl⟩ := next_cases taken
  exact apart_update different _

theorem Coherent.next (coherent : bus.Coherent) {subscriber : Subscriber}
    {message : Message}
    (taken : bus.next? subscriber = some (message, after)) :
    after.Coherent := by
  obtain ⟨subscription, inbox, subscribed, heads, rfl⟩ := next_cases taken
  apply coherent.update
  intro changed isChanged
  cases isChanged
  obtain ⟨bounded, same⟩ := coherent subscriber subscription subscribed
  refine ⟨bounded, ?_⟩
  rw [← same, heads, List.append_assoc]
  rfl

end Subscribing

section UpTo

/-- Of some messages those up to the first that is the last, with that one. -/
def upTo (last : Message → Bool) : List Message → List Message
  | [] => []
  | message :: messages =>
      if last message then [message] else message :: upTo last messages

variable {last : Message → Bool}

/-- A reader that has not come to a last message reads on. -/
theorem upTo_append {seen : List Message}
    (goesOn : ∀ message ∈ seen, last message = false)
    (rest : List Message) : upTo last (seen ++ rest) = seen ++ upTo last rest := by
  induction seen with
  | nil => rfl
  | cons message seen inductionHypothesis =>
      rw [List.forall_mem_cons] at goesOn
      simp [upTo, goesOn.1, inductionHypothesis goesOn.2]

/-- With the next message a reader is no further than the first last one. -/
theorem prefix_upTo {seen : List Message} {message : Message}
    (goesOn : ∀ message ∈ seen, last message = false)
    (rest : List Message) :
    seen ++ [message] <+: upTo last (seen ++ message :: rest) := by
  rw [upTo_append goesOn, List.prefix_append_right_inj, upTo]
  split
  · exact List.prefix_rfl
  · exact List.prefix_append [message] _

/-- Later messages do not change what a reader has come through. -/
theorem upTo_prefix (messages rest : List Message) :
    upTo last messages <+: upTo last (messages ++ rest) := by
  induction messages with
  | nil => exact List.nil_prefix
  | cons message messages inductionHypothesis =>
      simp only [List.cons_append, upTo]
      split
      · exact List.prefix_rfl
      · exact List.prefix_cons_inj message |>.mpr inductionHypothesis

end UpTo

end PubSub
