import LineShell.Proofs.Builtins
import LineShell.Proofs.Stage
/-!
# Messages in pieces

A message may be written at once, or in pieces of which each is written when the one before it has been
accepted. A channel does not see the difference: the bytes it accepts, the failure and the state it is
left in are those of the message, wherever the pieces end.

The calls that are made do depend on the pieces. A call that takes no more than the piece in front of it
goes the same if it is offered the whole message, and a call that would take more is made as two calls,
one up to the end of the piece and one behind it.
-/

namespace LineShell

namespace Channel

/-! ### Calls that are offered more -/

theorem share_le (most : Option Nat) (offered : Nat) : share most offered ≤ offered := by
  cases most with
  | none => exact Nat.le_refl _
  | some most => exact Nat.min_le_left _ _

theorem share_of_le (most : Option Nat) {count offered : Nat} (hle : count ≤ offered) :
    share most count = min (share most offered) count := by
  cases most with
  | none => exact (Nat.min_eq_right hle).symm
  | some most =>
    simp only [share]
    omega

/-- A channel of which one call takes up to `most` bytes. Its state is then a matter of how many. -/
structure Taking (channel : Channel) (most : Option Nat) (state : Nat → Channel) : Prop where
  call : ∀ offered, channel.call offered = (.took (share most offered), state (share most offered))
  further : ∀ count more, 0 < more → share most (count + more) = count + more →
    (state count).call more = (.took more, state (count + more))

theorem taking_free (perCall : Option Nat) (flushFault : Option IoError) :
    Taking ⟨perCall, [], flushFault⟩ perCall fun _ => ⟨perCall, [], flushFault⟩ where
  call _ := rfl
  further count more _ hall := by
    have hmore := share_of_le perCall (Nat.le_add_left more count)
    rw [hall, Nat.min_eq_right (Nat.le_add_left more count)] at hmore
    simp only [Channel.call, callFaults]
    rw [hmore]

theorem taking_near (perCall : Option Nat) (flushFault : Option IoError) {fault : Fault}
    (hlasts : fault.calls ≠ some 0) (hafter : fault.after ≠ 0) (rest : List Fault) :
    Taking ⟨perCall, fault :: rest, flushFault⟩ (some (share perCall fault.after))
      fun count => ⟨perCall, fault.approached count :: rest, flushFault⟩ where
  call offered := by
    have hcount : min (share perCall offered) fault.after
        = share (some (share perCall fault.after)) offered := by
      cases perCall with
      | none => rfl
      | some most =>
        simp only [share]
        omega
    simp only [Channel.call, callFaults, if_neg hlasts, if_neg hafter, hcount]
  further count more hmore hall := by
    have hbound : count + more ≤ share perCall fault.after := by
      rw [← hall]
      exact Nat.min_le_right _ _
    have hreach := hbound.trans (share_le perCall fault.after)
    have hshare : share perCall more = more := by
      cases perCall with
      | none => rfl
      | some most =>
        simp only [share] at hbound ⊢
        omega
    -- The fault would strike the second call if the first had gone right up to it.
    have hnear : ¬ (fault.approached count).after = 0 := by
      change ¬ fault.after - count = 0
      omega
    have hfits : min more (fault.approached count).after = more := by
      change min more (fault.after - count) = more
      omega
    have hboth : (fault.approached count).approached more = fault.approached (count + more) := by
      simp only [Fault.approached, Nat.sub_sub]
    have hlasts' : ¬ (fault.approached count).calls = some 0 := hlasts
    simp only [Channel.call, callFaults, if_neg hlasts', if_neg hnear, hshare, hfits, hboth]

/-- A channel takes bytes, or else its next call takes none and goes the same whatever it is offered. -/
theorem taking_or_struck (channel : Channel) :
    (∃ most state, channel.Taking most state) ∨
      ∃ answer channel', (∀ taken, answer = .took taken → taken = 0) ∧
        ∀ offered, channel.call offered = (answer, channel') := by
  obtain ⟨perCall, faults, flushFault⟩ := channel
  induction faults with
  | nil => exact .inl ⟨_, _, taking_free perCall flushFault⟩
  | cons fault rest ih =>
    by_cases hspent : fault.calls = some 0
    · have hpassed : ∀ offered, Channel.call offered ⟨perCall, fault :: rest, flushFault⟩
          = Channel.call offered ⟨perCall, rest, flushFault⟩ := by
        intro offered
        simp only [call, callFaults, if_pos hspent]
      rcases ih with ⟨most, state, htaking⟩ | ⟨answer, channel', hnothing, hcall⟩
      · refine .inl ⟨most, state, ?_, htaking.further⟩
        intro offered
        rw [hpassed, htaking.call]
      · refine .inr ⟨answer, channel', hnothing, fun offered => ?_⟩
        rw [hpassed, hcall]
    · by_cases hreached : fault.after = 0
      · refine .inr ⟨fault.answer, ⟨perCall, fault.struck :: rest, flushFault⟩, ?_, fun offered => ?_⟩
        · intro taken hanswer
          unfold Fault.answer at hanswer
          split at hanswer
          · exact Answer.noConfusion hanswer
          · exact (Answer.took.inj hanswer).symm
        · simp only [call, callFaults, if_neg hspent, if_pos hreached]
      · exact .inl ⟨_, _, taking_near perCall flushFault hspent hreached rest⟩

theorem call_took_le {channel channel' : Channel} {offered taken : Nat}
    (hcall : channel.call offered = (.took taken, channel')) : taken ≤ offered := by
  rcases taking_or_struck channel with ⟨most, state, htaking⟩ | ⟨answer, _, hnothing, hsame⟩
  · rw [htaking.call] at hcall
    rw [← Answer.took.inj (Prod.mk.inj hcall).1]
    exact share_le most offered
  · rw [hsame] at hcall
    rw [hnothing taken (Prod.mk.inj hcall).1]
    exact Nat.zero_le _

/-- A call with more on offer goes the same, or it takes more and is as good as two calls. -/
theorem call_longer (channel : Channel) {count offered : Nat} (hle : count ≤ offered) :
    channel.call offered = channel.call count ∨
      ∃ more middle channel', 0 < more ∧ channel.call count = (.took count, middle) ∧
        channel.call offered = (.took (count + more), channel') ∧
        middle.call more = (.took more, channel') := by
  rcases taking_or_struck channel with ⟨most, state, htaking⟩ | ⟨answer, channel', -, hsame⟩
  · have hshare := share_of_le most hle
    by_cases hfits : share most offered ≤ count
    · left
      rw [htaking.call, htaking.call, hshare, Nat.min_eq_left hfits]
    · right
      have hless : count < share most offered := Nat.lt_of_not_le hfits
      have htotal : count + (share most offered - count) = share most offered :=
        Nat.add_sub_cancel' hless.le
      have hagain : share most (share most offered) = share most offered := by
        rw [share_of_le most (share_le most offered), Nat.min_self]
      refine ⟨share most offered - count, state count, state (share most offered), ?_, ?_, ?_, ?_⟩
      · exact Nat.sub_pos_of_lt hless
      · rw [htaking.call, hshare, Nat.min_eq_right hless.le]
      · rw [htaking.call, htotal]
      · have hfurther := htaking.further count _ (Nat.sub_pos_of_lt hless) (by rw [htotal, hagain])
        rwa [htotal] at hfurther
  · left
    rw [hsame, hsame]

/-! ### Messages in two parts -/

/-- A delivery, and what follows it unless it has failed. -/
def andThen (first : Delivery × Channel) (next : Channel → Delivery × Channel) : Delivery × Channel :=
  match first.1.failure with
  | none => (⟨first.1.accepted ++ (next first.2).1.accepted, (next first.2).1.failure⟩, (next first.2).2)
  | some _ => first

theorem andThen_whole (bytes : Bytes) (channel : Channel) (next : Channel → Delivery × Channel) :
    andThen (⟨bytes, none⟩, channel) next
      = (⟨bytes ++ (next channel).1.accepted, (next channel).1.failure⟩, (next channel).2) := rfl

theorem andThen_failed (bytes : Bytes) (error : IoError) (channel : Channel)
    (next : Channel → Delivery × Channel) :
    andThen (⟨bytes, some error⟩, channel) next = (⟨bytes, some error⟩, channel) := rfl

theorem andThen_assoc (first : Delivery × Channel) (next last : Channel → Delivery × Channel) :
    andThen (andThen first next) last = andThen first fun channel => andThen (next channel) last := by
  obtain ⟨⟨bytes, failure⟩, channel⟩ := first
  cases failure with
  | some error => rfl
  | none =>
    rw [andThen_whole, andThen_whole]
    obtain ⟨⟨bytes', failure'⟩, channel'⟩ := next channel
    cases failure' with
    | some error => rfl
    | none =>
      rw [andThen_whole, andThen_whole, List.append_assoc]

theorem deliver_nil (channel : Channel) : channel.deliver [] = (⟨[], none⟩, channel) := by
  rw [deliver, if_pos rfl]

theorem deliver_of_took {channel channel' : Channel} {message : Bytes} {count : Nat}
    (hmessage : message ≠ []) (hcall : channel.call message.length = (.took count, channel'))
    (hcount : 0 < count) :
    channel.deliver message
      = andThen (⟨message.take count, none⟩, channel') (·.deliver (message.drop count)) := by
  obtain ⟨n, rfl⟩ : ∃ n, count = n + 1 := ⟨count - 1, by omega⟩
  rw [deliver, if_neg hmessage]
  split <;> rename_i hanswer <;> rw [hcall] at hanswer
  · simp at hanswer
  · obtain ⟨htook, rfl⟩ := Prod.mk.inj hanswer
    obtain rfl := Nat.succ.inj (Answer.took.inj htook)
    rfl
  · simp at hanswer

theorem deliver_of_took_zero {channel channel' : Channel} {message : Bytes} (hmessage : message ≠ [])
    (hcall : channel.call message.length = (.took 0, channel')) :
    channel.deliver message = (⟨[], some .wholeBuffer⟩, channel') := by
  rw [deliver, if_neg hmessage]
  split <;> rename_i hanswer <;> rw [hcall] at hanswer
  · obtain ⟨-, rfl⟩ := Prod.mk.inj hanswer
    rfl
  · simp at hanswer
  · simp at hanswer

theorem deliver_of_failed {channel channel' : Channel} {message : Bytes} {error : IoError}
    (hmessage : message ≠ []) (hcall : channel.call message.length = (.failed error, channel')) :
    channel.deliver message
      = if error.interrupts then channel'.deliver message else (⟨[], some error⟩, channel') := by
  rw [deliver, if_neg hmessage]
  split <;> rename_i hanswer <;> rw [hcall] at hanswer
  · simp at hanswer
  · simp at hanswer
  · obtain ⟨herror, rfl⟩ := Prod.mk.inj hanswer
    obtain rfl := Answer.failed.inj herror
    rfl

/-- Bytes that one call would take can be written first, and then the others. -/
theorem deliver_of_call {channel channel' : Channel} {message : Bytes} {count : Nat}
    (hcall : channel.call count = (.took count, channel')) (hcount : 0 < count)
    (hle : count ≤ message.length) :
    channel.deliver message
      = andThen (⟨message.take count, none⟩, channel') (·.deliver (message.drop count)) := by
  induction hlength : message.length using Nat.strong_induction_on
    generalizing message channel channel' count with
  | _ length ih =>
    have hmessage : message ≠ [] := List.length_pos_iff.1 (hcount.trans_le hle)
    rcases call_longer channel hle with hsame | ⟨more, middle, channel'', hmore, hfirst, hwhole, hsecond⟩
    · exact deliver_of_took hmessage (hsame.trans hcall) hcount
    · -- One call takes more than `count` bytes, so the others are begun within it.
      obtain rfl : channel' = middle := (Prod.mk.inj (hcall.symm.trans hfirst)).2
      have htotal := call_took_le hwhole
      have hdrop : (message.drop count).length = message.length - count := List.length_drop
      have hrest := ih (message.drop count).length (by omega) hsecond hmore (by omega) rfl
      rw [deliver_of_took hmessage hwhole (by omega), andThen_whole, andThen_whole, hrest, andThen_whole,
        List.drop_drop, List.take_add, List.append_assoc]

/-- A call that does not take all of the first part does not see the second. -/
theorem call_append {channel channel' : Channel} {front : Bytes} {answer : Answer}
    (hcall : channel.call front.length = (answer, channel')) (hpart : answer ≠ .took front.length)
    (back : Bytes) : channel.call (front ++ back).length = (answer, channel') := by
  have hle : front.length ≤ (front ++ back).length := by
    rw [List.length_append]
    exact Nat.le_add_right _ _
  rcases call_longer channel hle with hsame | ⟨more, middle, _, -, hall, -, -⟩
  · exact hsame.trans hcall
  · exact absurd (Prod.mk.inj (hcall.symm.trans hall)).1 hpart

/-- Two parts, the second written if the first was accepted, are delivered as one message. -/
theorem deliver_append (front back : Bytes) (channel : Channel) :
    channel.deliver (front ++ back) = andThen (channel.deliver front) (·.deliver back) := by
  have hboth : ∀ {front : Bytes}, front ≠ [] → front ++ back ≠ [] := fun hfront =>
    List.append_ne_nil_of_left_ne_nil hfront back
  -- The induction is on the calls that the first part takes: the second comes in with the last of them.
  induction front, channel using deliver.induct with
  | case1 channel =>
    rw [deliver_nil, andThen_whole, List.nil_append, List.nil_append]
  | case2 front channel hfront channel' hcall =>
    have hpart : Answer.took 0 ≠ .took front.length := by
      intro heq
      exact hfront (List.length_eq_zero_iff.1 (Answer.took.inj heq).symm)
    rw [deliver_of_took_zero (hboth hfront) (call_append hcall hpart back),
      deliver_of_took_zero hfront hcall, andThen_failed]
  | case3 front channel hfront n channel' hcall _ _ _ ih =>
    have hle := call_took_le hcall
    rw [deliver_of_took hfront hcall (Nat.succ_pos n), andThen_assoc]
    by_cases hall : n.succ = front.length
    · have hfits : front.length ≤ (front ++ back).length := by
        rw [List.length_append]
        exact Nat.le_add_right _ _
      rw [hall] at hcall ⊢
      rw [deliver_of_call hcall (List.length_pos_iff.2 hfront) hfits, List.take_left, List.drop_left,
        List.take_length, List.drop_length]
      simp only [deliver_nil, andThen_whole, List.nil_append]
    · have hpart : Answer.took n.succ ≠ .took front.length := fun heq => hall (Answer.took.inj heq)
      rw [deliver_of_took (hboth hfront) (call_append hcall hpart back) (Nat.succ_pos n),
        List.take_append_of_le_length hle, List.drop_append_of_le_length hle, andThen_whole, ih,
        andThen_whole]
  | case4 front channel hfront error channel' hcall hretry ih =>
    rw [deliver_of_failed (hboth hfront) (call_append hcall Answer.noConfusion back),
      deliver_of_failed hfront hcall, if_pos hretry, if_pos hretry]
    exact ih
  | case5 front channel hfront error channel' hcall hretry =>
    rw [deliver_of_failed (hboth hfront) (call_append hcall Answer.noConfusion back),
      deliver_of_failed hfront hcall, if_neg hretry, if_neg hretry, andThen_failed]

end Channel

/-! ### Writes on a stage -/

/-- What writes to a channel come to: how far they got, and the world they leave. -/
def Outcome.delivery {ω : Type} (sink : Sink) (sent : Outcome ω (Option IoError)) : Delivery × ω :=
  (⟨sent.events.accepted sink, sent.value⟩, sent.world)

/-- Of writes to one channel the accepted bytes can be seen, and not where one write ends. -/
theorem Trace.visible_of_writes {sink : Sink} {trace : Trace}
    (htrace : ∀ event ∈ trace,
      (∃ bytes, event = .wrote sink bytes) ∨ ∃ refusal, event = .writeFailed sink refusal) :
    trace.visible = if trace.accepted sink = [] then [] else [.wrote sink (trace.accepted sink)] := by
  induction trace with
  | nil => rfl
  | cons event rest ih =>
    have hrest := ih fun other hother => htrace other (List.mem_cons_of_mem _ hother)
    rcases htrace event List.mem_cons_self with ⟨bytes, rfl⟩ | ⟨refusal, rfl⟩
    · have haccepted : accepted sink (.wrote sink bytes :: rest) = bytes ++ accepted sink rest := by
        rw [accepted, List.flatMap_cons, Event.accepted, if_pos rfl]
        rfl
      rw [haccepted]
      by_cases hbytes : bytes = []
      · rw [hbytes, List.nil_append]
        exact hrest
      · have hshown : (Event.wrote sink bytes).isVisible := by
          rw [Event.isVisible, Bool.not_eq_true', List.isEmpty_eq_false_iff]
          exact hbytes
        have hvisible : visible (.wrote sink bytes :: rest)
            = consMerged (.wrote sink bytes) (visible rest) := by
          rw [visible, List.filter_cons_of_pos hshown]
          rfl
        have hnonempty : bytes ++ accepted sink rest ≠ [] := List.append_ne_nil_of_left_ne_nil hbytes _
        rw [hvisible, hrest, if_neg hnonempty]
        by_cases hnothing : accepted sink rest = []
        · rw [if_pos hnothing, hnothing, List.append_nil]
          rfl
        · rw [if_neg hnothing]
          simp only [consMerged, if_true]
    · exact hrest

namespace Act

variable {ω : Type} [World ω]

theorem sendAll_singleton (sink : Sink) (message : Bytes) :
    sendAll sink [message] = (send sink message : Act ω _) := by
  have hsame : (fun failure : Option IoError => match failure with
      | none => sendAll sink []
      | some error => return some error : Option IoError → Act ω _) = pure := by
    funext failure
    cases failure <;> rfl
  exact (congrArg (send sink message >>= ·) hsame).trans (bind_pure _)

theorem delivery_sendAll_of_accepted {sink : Sink} {message bytes : Bytes} {world world' : ω}
    (hfirst : World.deliver sink message world = (⟨bytes, none⟩, world')) (rest : List Bytes) :
    let later := ((sendAll sink rest).run world').delivery sink
    ((sendAll sink (message :: rest)).run world).delivery sink
      = (⟨bytes ++ later.1.accepted, later.1.failure⟩, later.2) := by
  rw [sendAll, run_bind, run_send, hfirst]
  simp [Outcome.delivery, Trace.accepted, Event.accepted]

theorem delivery_sendAll_of_failed {sink : Sink} {message bytes : Bytes} {error : IoError}
    {world world' : ω} (hfirst : World.deliver sink message world = (⟨bytes, some error⟩, world'))
    (rest : List Bytes) :
    ((sendAll sink (message :: rest)).run world).delivery sink = (⟨bytes, some error⟩, world') := by
  rw [sendAll, run_bind, run_send, hfirst]
  simp [Outcome.delivery, Trace.accepted, Event.accepted]

theorem visible_sendAll (sink : Sink) (messages : List Bytes) (world : ω) :
    let sent := (sendAll sink messages).run world
    sent.events.visible
      = if sent.events.accepted sink = [] then [] else [.wrote sink (sent.events.accepted sink)] := by
  apply Trace.visible_of_writes
  intro event hevent
  rcases eq_of_mem_sendAll hevent with hwrote | ⟨refusal, hfailed, -⟩
  · exact .inl hwrote
  · exact .inr ⟨refusal, hfailed⟩

end Act

namespace Stage

theorem withChannel_channel (stage : Stage) (sink : Sink) :
    stage.withChannel sink (stage.channel sink) = stage := by
  cases sink <;> rfl

theorem withChannel_withChannel (stage : Stage) (sink : Sink) (channel channel' : Channel) :
    (stage.withChannel sink channel).withChannel sink channel' = stage.withChannel sink channel' := by
  cases sink <;> rfl

/-- Writing the pieces of a message, until one fails, comes to what writing it at once comes to. -/
theorem delivery_sendAll (sink : Sink) (pieces : List Bytes) (stage : Stage) :
    ((Act.sendAll sink pieces).run stage).delivery sink = stage.deliver sink pieces.flatten := by
  induction pieces generalizing stage with
  | nil =>
    rw [List.flatten_nil, deliver, Channel.deliver_nil]
    dsimp only
    rw [withChannel_channel]
    rfl
  | cons piece rest ih =>
    obtain ⟨⟨⟨bytes, failure⟩, channel⟩, hpiece⟩ :
      ∃ delivered, (stage.channel sink).deliver piece = delivered := ⟨_, rfl⟩
    have hfirst : World.deliver sink piece stage = (⟨bytes, failure⟩, stage.withChannel sink channel) := by
      change stage.deliver sink piece = _
      rw [deliver, hpiece]
    have hmessage : stage.deliver sink (piece :: rest).flatten
        = ((Channel.andThen (⟨bytes, failure⟩, channel) (·.deliver rest.flatten)).1,
          stage.withChannel sink
            (Channel.andThen (⟨bytes, failure⟩, channel) (·.deliver rest.flatten)).2) := by
      rw [List.flatten_cons, deliver, Channel.deliver_append, hpiece]
    rw [hmessage]
    cases failure with
    | some error =>
      rw [Act.delivery_sendAll_of_failed hfirst, Channel.andThen_failed]
    | none =>
      have hlater := ih (stage.withChannel sink channel)
      rw [deliver, channel_withChannel, if_pos rfl] at hlater
      rw [Act.delivery_sendAll_of_accepted hfirst, hlater, Channel.andThen_whole]
      dsimp only
      rw [withChannel_withChannel]

/-- A channel accepts a first part of a message, and all of it exactly if writing it succeeds. Which part
that is, the failure and the channel afterwards are the same for all pieces that make up the message, and
for the message as a whole. -/
theorem sendAll_recut (sink : Sink) (pieces : List Bytes) (stage : Stage) :
    let message := pieces.flatten
    let sent := (Act.sendAll sink pieces).run stage
    sent.events.accepted sink <+: message ∧
      (sent.value = none ↔ sent.events.accepted sink = message) ∧
      (∀ others : List Bytes, others.flatten = message →
        let recut := (Act.sendAll sink others).run stage
        recut.delivery sink = sent.delivery sink ∧ recut.events.visible = sent.events.visible) ∧
      let whole := (Act.send sink message).run stage
      whole.delivery sink = sent.delivery sink ∧ whole.events.visible = sent.events.visible := by
  intro message sent
  have hrecut : ∀ others : List Bytes, others.flatten = message →
      let recut := (Act.sendAll sink others).run stage
      recut.delivery sink = sent.delivery sink ∧ recut.events.visible = sent.events.visible := by
    intro others hothers recut
    have hdelivery : recut.delivery sink = sent.delivery sink := by
      rw [delivery_sendAll, delivery_sendAll, hothers]
    have haccepted : recut.events.accepted sink = sent.events.accepted sink :=
      congrArg (fun delivery => delivery.1.accepted) hdelivery
    refine ⟨hdelivery, ?_⟩
    rw [Act.visible_sendAll, Act.visible_sendAll, haccepted]
  refine ⟨Act.accepted_sendAll_prefix sink pieces stage,
    (Act.accepted_sendAll_eq_iff sink pieces stage).symm, hrecut, ?_⟩
  have hwhole := hrecut [message] List.flatten_singleton
  rwa [Act.sendAll_singleton] at hwhole

/-- A diagnostic on a channel that takes three bytes at a time, is interrupted twice where the message
begins, and is full four bytes behind that. -/
theorem sendAll_recut_full :
    let error : Channel := ⟨some 3, [⟨6, some (.plain .interrupted), some 2, nofun⟩,
      ⟨4, some (.plain .storageFull), none, by simp [IoError.interrupts]⟩], none⟩
    let stage : Stage := ⟨.whole, error, .whole, ⟨[], []⟩, none⟩
    let pieces := [programName, Bytes.ofString ": ", Bytes.ofString "no command", Bytes.ofString "\n"]
    let others := [Bytes.ofString "lish: no c", Bytes.ofString "ommand\n"]
    let recut := (Act.sendAll .error others).run stage
    others.flatten = pieces.flatten ∧ recut.value = some (.plain .storageFull) ∧
      recut.events.accepted .error = Bytes.ofString "lish: no c" ∧
      recut.delivery .error = ((Act.sendAll .error pieces).run stage).delivery .error := by
  intro error stage pieces others recut
  have hothers : others.flatten = pieces.flatten := by decide
  obtain ⟨-, -, hrecut, -⟩ := sendAll_recut .error pieces stage
  obtain ⟨hdelivery, -⟩ := hrecut others hothers
  refine ⟨hothers, ?_, ?_, hdelivery⟩
  · decide +kernel
  · decide +kernel

end Stage

end LineShell
