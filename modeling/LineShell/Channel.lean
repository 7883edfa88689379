import LineShell.World
/-!
# Channels with faults

A channel takes bytes in calls. A call may take fewer bytes than it is offered, may take none, or
may fail, and a fault of the channel strikes after a number of bytes and lasts for a number of calls
or for good. `Channel.deliver` makes calls until the whole message is taken: it goes on after a
short call and after an interruption, and stops at every other failure and at a call that takes
nothing.

A fault that only interrupts must end at some time, since a message would otherwise never be
delivered and never fail.
-/

namespace LineShell

inductive Answer where
  /-- The call takes this many bytes. -/
  | took (count : Nat)
  /-- The call fails. -/
  | failed (error : IoError)
  deriving DecidableEq, Repr

def Answer.interrupts : Answer → Bool
  | .took _ => false
  | .failed error => error.interrupts

structure Fault where
  /-- How many bytes are still taken before it. -/
  after : Nat
  /-- What calls then answer: a failure, or that nothing is taken if there is none. -/
  error : Option IoError
  /-- How many calls it lasts for, if not for good. -/
  calls : Option Nat
  passes : (∃ e, error = some e ∧ e.interrupts) → calls ≠ none
  deriving DecidableEq

namespace Fault

/-- The fault with these parts, unless it would interrupt for good. -/
def ofParts? (after : Nat) (error : Option IoError) (calls : Option Nat) : Option Fault :=
  if h : (∃ e, error = some e ∧ e.interrupts) → calls ≠ none then some ⟨after, error, calls, h⟩
  else none

/-- The fault after some bytes were taken before it. -/
def approached (fault : Fault) (count : Nat) : Fault :=
  ⟨fault.after - count, fault.error, fault.calls, fault.passes⟩

/-- The fault after one of its calls. -/
def struck (fault : Fault) : Fault :=
  ⟨fault.after, fault.error, fault.calls.map (· - 1), fun h => by simpa using fault.passes h⟩

/-- What a call answers while the fault lasts. -/
def answer (fault : Fault) : Answer :=
  match fault.error with
  | some error => .failed error
  | none => .took 0

end Fault

/-- A channel that takes bytes in calls. -/
structure Channel where
  /-- The most bytes that one call takes. -/
  perCall : Option Nat
  /-- Its faults, the next one first. -/
  faults : List Fault
  /-- The failure of every flush, if flushes fail. -/
  flushFault : Option IoError
  deriving DecidableEq

namespace Channel

def whole : Channel := ⟨none, [], none⟩

/-- How many of `offered` bytes one call takes when no fault is near. -/
def share (perCall : Option Nat) (offered : Nat) : Nat :=
  match perCall with
  | none => offered
  | some most => min offered most

/-- What a call that offers some bytes answers, and the faults it leaves. Faults that have lasted
for all their calls are passed over. -/
def callFaults (perCall : Option Nat) (offered : Nat) : List Fault → Answer × List Fault
  | [] => (.took (share perCall offered), [])
  | fault :: rest =>
    if fault.calls = some 0 then callFaults perCall offered rest
    else if fault.after = 0 then (fault.answer, fault.struck :: rest)
    else
      let count := min (share perCall offered) fault.after
      (.took count, fault.approached count :: rest)

/-- What a call that offers some bytes answers, and the channel after it. -/
def call (offered : Nat) (channel : Channel) : Answer × Channel :=
  let (answer, faults) := callFaults channel.perCall offered channel.faults
  (answer, { channel with faults })

def patienceOf : List Fault → Nat
  | [] => 0
  | fault :: rest => fault.calls.getD 0 + patienceOf rest

/-- For how many more calls a channel can keep a message waiting. -/
def patience (channel : Channel) : Nat :=
  patienceOf channel.faults

theorem patienceOf_callFaults_le (perCall : Option Nat) (offered : Nat) (faults : List Fault) :
    patienceOf (callFaults perCall offered faults).2 ≤ patienceOf faults := by
  induction faults with
  | nil => simp [callFaults]
  | cons fault rest ih =>
    unfold callFaults
    split
    · simp only [patienceOf] at ih ⊢
      omega
    · split
      · cases hcalls : fault.calls <;> simp [patienceOf, Fault.struck, hcalls]
      · simp [patienceOf, Fault.approached]

theorem patienceOf_callFaults_lt (perCall : Option Nat) (offered : Nat) (faults : List Fault)
    (hinterrupts : (callFaults perCall offered faults).1.interrupts) :
    patienceOf (callFaults perCall offered faults).2 < patienceOf faults := by
  induction faults with
  | nil => simp [callFaults, Answer.interrupts] at hinterrupts
  | cons fault rest ih =>
    unfold callFaults at hinterrupts ⊢
    split
    · rename_i hspent
      simp only [hspent, if_true] at hinterrupts
      have := ih hinterrupts
      simp only [patienceOf] at this ⊢
      omega
    · rename_i hlasting
      split
      · rename_i hreached
        simp only [hlasting, hreached, if_true, if_false] at hinterrupts
        have hcalls : fault.calls ≠ none := by
          apply fault.passes
          unfold Fault.answer at hinterrupts
          cases herror : fault.error with
          | none => simp [herror, Answer.interrupts] at hinterrupts
          | some error =>
            simp only [herror, Answer.interrupts] at hinterrupts
            exact ⟨error, rfl, hinterrupts⟩
        obtain ⟨count, hcount⟩ := Option.ne_none_iff_exists'.1 hcalls
        have hpositive : count ≠ 0 := fun hzero => hlasting (by rw [hcount, hzero])
        simp only [patienceOf, Fault.struck, hcount, Option.map_some, Option.getD_some]
        omega
      · rename_i hbefore
        simp [hlasting, hbefore, Answer.interrupts] at hinterrupts

/-- Delivers a message: calls are made until all of it is taken, a call fails other than by being
interrupted, or a call takes nothing. -/
def deliver (message : Bytes) (channel : Channel) : Delivery × Channel :=
  if message = [] then (⟨[], none⟩, channel)
  else match _hcall : channel.call message.length with
    | (.took 0, channel') => (⟨[], some .wholeBuffer⟩, channel')
    | (.took (n + 1), channel') =>
      let (rest, channel'') := deliver (message.drop (n + 1)) channel'
      (⟨message.take (n + 1) ++ rest.accepted, rest.failure⟩, channel'')
    | (.failed error, channel') =>
      if _hretry : error.interrupts then deliver message channel'
      else (⟨[], some error⟩, channel')
termination_by message.length + channel.patience
decreasing_by
  · have hle := patienceOf_callFaults_le channel.perCall message.length channel.faults
    have hpatience : channel'.patience ≤ channel.patience := by
      simp only [call, Prod.mk.injEq] at _hcall
      rw [← _hcall.2]
      exact hle
    have hlength : 0 < message.length := List.length_pos_iff.2 ‹message ≠ []›
    simp only [List.length_drop]
    omega
  · have hlt := patienceOf_callFaults_lt channel.perCall message.length channel.faults
    have hpatience : channel'.patience < channel.patience := by
      simp only [call, Prod.mk.injEq] at _hcall
      rw [← _hcall.2]
      exact hlt (by rw [_hcall.1]; exact _hretry)
    omega

def flush (channel : Channel) : Option IoError :=
  channel.flushFault

theorem deliver_accepted (message : Bytes) (channel : Channel) :
    (channel.deliver message).1.accepted <+: message := by
  fun_induction deliver message channel with
  | case1 channel => simp
  | case2 => simp
  | case3 message channel _ n channel' _ rest channel'' hrest ih =>
    rw [hrest] at ih
    calc message.take (n + 1) ++ rest.accepted
        <+: message.take (n + 1) ++ message.drop (n + 1) := by
          rw [List.prefix_append_right_inj]
          exact ih
      _ = message := List.take_append_drop _ _
  | case4 _ _ _ _ _ _ _ ih => exact ih
  | case5 => simp

theorem deliver_failure (message : Bytes) (channel : Channel) :
    (channel.deliver message).1.failure = none ↔ (channel.deliver message).1.accepted = message := by
  fun_induction deliver message channel with
  | case1 channel => simp
  | case2 message _ hmessage => simpa using hmessage
  | case3 message channel _ n channel' _ rest channel'' hrest ih =>
    rw [hrest] at ih
    refine ih.trans ⟨fun haccepted => ?_, fun haccepted => ?_⟩
    · exact (congrArg (message.take (n + 1) ++ ·) haccepted).trans (List.take_append_drop _ _)
    · exact List.append_cancel_left (haccepted.trans (List.take_append_drop (n + 1) message).symm)
  | case4 _ _ _ _ _ _ _ ih => exact ih
  | case5 message _ hmessage => simpa using hmessage

end Channel

end LineShell
