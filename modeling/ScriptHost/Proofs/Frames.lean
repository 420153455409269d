import Mathlib.Data.List.Forall2
import ScriptHost.Host.State

/-!
The frames of running calls. A progress check keeps all frames in their places and only lets them
trip, each for one reason that it keeps. A call that is over leaves the frames around it as its run
left them, so whatever happens inside a call, the frames outside are only moved on by progress
checks.
-/

namespace ScriptHost

namespace ActiveCall

/-- What can become of a frame: its deadline and its switch stay, and so does the reason it has
tripped for. -/
structure Leads (before after : ActiveCall) : Prop where
  deadline : after.deadline = before.deadline
  switch : after.switch = before.switch
  tripped : ∀ reason, before.tripped = some reason → after.tripped = some reason

theorem Leads.refl (call : ActiveCall) : call.Leads call :=
  ⟨rfl, rfl, fun _ hreason => hreason⟩

theorem Leads.trans {first second third : ActiveCall} (hfirst : first.Leads second)
    (hsecond : second.Leads third) : first.Leads third :=
  ⟨hsecond.deadline.trans hfirst.deadline, hsecond.switch.trans hfirst.switch,
    fun reason hreason => hsecond.tripped reason (hfirst.tripped reason hreason)⟩

theorem check_of_tripped {call : ActiveCall} {reason : AbortReason}
    (htripped : call.tripped = some reason) (switches : Switches) (now operations : Nat) :
    call.check switches now operations = call := by
  simp [check, htripped]

theorem check_leads (call : ActiveCall) (switches : Switches) (now operations : Nat) :
    call.Leads (call.check switches now operations) := by
  cases htripped : call.tripped with
  | some reason =>
      rw [check_of_tripped htripped]
      exact Leads.refl call
  | none =>
      refine ⟨?_, ?_, ?_⟩
      · simp only [check, htripped]
        split
        · rfl
        · split <;> rfl
      · simp only [check, htripped]
        split
        · rfl
        · split <;> rfl
      · intro reason hreason
        simp [htripped] at hreason

end ActiveCall

/-- Frames that have been moved on, each in its place. -/
def FramesLead (before after : List ActiveCall) : Prop :=
  List.Forall₂ ActiveCall.Leads before after

namespace FramesLead

variable {first second third : List ActiveCall}

theorem refl (calls : List ActiveCall) : FramesLead calls calls :=
  List.forall₂_same.mpr fun call _ => ActiveCall.Leads.refl call

theorem of_eq (hsame : second = first) : FramesLead first second := by
  rw [hsame]
  exact refl first

theorem trans (hfirst : FramesLead first second) (hsecond : FramesLead second third) :
    FramesLead first third := by
  induction hfirst generalizing third with
  | nil => exact hsecond
  | cons hcall _ ih =>
      cases hsecond with
      | cons hcall' hrest => exact .cons (hcall.trans hcall') (ih hrest)

theorem length_eq (hlead : FramesLead first second) : second.length = first.length :=
  (List.Forall₂.length_eq hlead).symm

theorem exists_mem {call : ActiveCall} (hlead : FramesLead first second) (hmem : call ∈ first) :
    ∃ after ∈ second, call.Leads after := by
  obtain ⟨place, hlt, rfl⟩ := List.mem_iff_getElem.mp hmem
  have hlt' : place < second.length := by
    rw [hlead.length_eq]
    exact hlt
  exact ⟨second[place], List.getElem_mem hlt', List.Forall₂.get hlead hlt hlt'⟩

end FramesLead

theorem checkProgress_lead (switches : Switches) (now operations : Nat) (calls : List ActiveCall) :
    FramesLead calls (checkProgress switches now operations calls).1 := by
  induction calls with
  | nil => exact .nil
  | cons call outer ih =>
      simp only [checkProgress]
      split
      · exact .cons (call.check_leads switches now operations) (FramesLead.refl outer)
      · exact .cons (call.check_leads switches now operations) ih

/-- A check asks for the end for the reason of the innermost frame that has tripped by then. -/
theorem checkProgress_reason (switches : Switches) (now operations : Nat)
    (calls : List ActiveCall) :
    (checkProgress switches now operations calls).2 =
      (checkProgress switches now operations calls).1.findSome? ActiveCall.tripped := by
  induction calls with
  | nil => rfl
  | cons call outer ih =>
      simp only [checkProgress]
      split
      · rename_i htripped
        rw [List.findSome?_cons, htripped]
      · rename_i hfresh
        rw [List.findSome?_cons, hfresh]
        exact ih

/-- A check that finds the innermost frame tripped, or trips it, asks for the end of its call, for
the same reason. -/
theorem checkProgress_of_tripped {switches : Switches} {now operations : Nat}
    {calls : List ActiveCall} {reason : AbortReason}
    (htripped : (checkProgress switches now operations calls).1.head?.bind ActiveCall.tripped =
      some reason) :
    (checkProgress switches now operations calls).2 = some reason := by
  rw [checkProgress_reason]
  obtain ⟨call, hhead, hreason⟩ := Option.bind_eq_some_iff.mp htripped
  obtain ⟨outer, hcalls⟩ := List.head?_eq_some_iff.mp hhead
  rw [hcalls, List.findSome?_cons, hreason]

/-- A check that finds any frame tripped asks for the end. -/
theorem checkProgress_asks {switches : Switches} {now operations : Nat} {calls : List ActiveCall}
    (htripped : ∃ call ∈ calls, call.tripped ≠ none) :
    (checkProgress switches now operations calls).2 ≠ none := by
  obtain ⟨call, hmem, hreason⟩ := htripped
  obtain ⟨reason, hreason⟩ := Option.ne_none_iff_exists'.mp hreason
  obtain ⟨after, hafter, hleads⟩ :=
    (checkProgress_lead switches now operations calls).exists_mem hmem
  rw [checkProgress_reason]
  intro hnone
  have hfresh := List.findSome?_eq_none_iff.mp hnone after hafter
  rw [hleads.tripped reason hreason] at hfresh
  cases hfresh

namespace Host

theorem check_lead (host : Host) (operations : Nat) :
    FramesLead host.calls (host.check operations).1.calls :=
  checkProgress_lead host.switches host.now operations host.calls

/-- A frame that has tripped keeps its reason whatever becomes of the frames. -/
theorem trippedAt_of_lead {before after : Host} (hlead : FramesLead before.calls after.calls)
    {depth : Nat} {reason : AbortReason} (htripped : before.trippedAt depth = some reason) :
    after.trippedAt depth = some reason := by
  unfold trippedAt at htripped ⊢
  obtain ⟨call, hcall, hreason⟩ := Option.bind_eq_some_iff.mp htripped
  have hreversed : FramesLead before.calls.reverse after.calls.reverse :=
    List.forall₂_reverse_iff.mpr hlead
  obtain ⟨hlt, hget⟩ := List.getElem?_eq_some_iff.mp hcall
  have hlt' : depth < after.calls.reverse.length := by
    rw [hreversed.length_eq]
    exact hlt
  have hcalls := List.Forall₂.get hreversed hlt hlt'
  simp only [List.get_eq_getElem, hget] at hcalls
  rw [List.getElem?_eq_getElem hlt', Option.bind_some]
  exact hcalls.tripped reason hreason

/-- The innermost frame, with all others around it. -/
theorem trippedAt_of_calls {host : Host} {call : ActiveCall} {outer : List ActiveCall}
    (hcalls : host.calls = call :: outer) :
    host.trippedAt outer.length = call.tripped := by
  unfold trippedAt
  rw [hcalls, List.reverse_cons, ← List.length_reverse, List.getElem?_concat_length,
    Option.bind_some]

/-- While no call runs within a call, a check that leaves its frame tripped asks for its end. -/
theorem check_of_trippedAt {host : Host} {depth operations : Nat} {reason : AbortReason}
    (hdepth : host.calls.length = depth + 1)
    (htripped : (host.check operations).1.trippedAt depth = some reason) :
    (host.check operations).2 = some reason := by
  have hlength := (host.check_lead operations).length_eq
  cases hcalls : (host.check operations).1.calls with
  | nil =>
      rw [hcalls, hdepth] at hlength
      cases hlength
  | cons call outer =>
      have houter : outer.length = depth := by
        rw [hcalls, hdepth] at hlength
        exact Nat.succ.inj hlength
      rw [← houter, trippedAt_of_calls hcalls] at htripped
      apply checkProgress_of_tripped
      have hhead : (checkProgress host.switches host.now operations host.calls).1 =
          call :: outer := hcalls
      rw [hhead]
      exact htripped

/-- A frame has not tripped when its call begins. -/
theorem trippedAt_enterCall (host : Host) (limit : Option Nat) (switch : Option String) :
    (host.enterCall limit switch).trippedAt host.calls.length = none := by
  have hcalls : (host.enterCall limit switch).calls =
      .start host.now limit switch :: host.calls := rfl
  rw [trippedAt_of_calls hcalls]
  rfl

@[simp]
theorem length_enterCall (host : Host) (limit : Option Nat) (switch : Option String) :
    (host.enterCall limit switch).calls.length = host.calls.length + 1 := rfl

/-- A call that is over leaves the frames around it as its run left them. -/
theorem leaveCall_lead {host after : Host} {limit : Option Nat} {switch : Option String}
    (hlead : FramesLead (host.enterCall limit switch).calls after.calls) :
    FramesLead host.calls (after.leaveCall host.calls.length).calls := by
  have hlength := hlead.length_eq
  rw [length_enterCall] at hlength
  simp only [leaveCall, hlength, Nat.add_sub_cancel_left]
  exact List.forall₂_drop 1 hlead

/-- A call that is over takes no other frame's reason away. -/
theorem trippedAt_leaveCall {host : Host} {depth kept : Nat} (hdepth : depth < kept)
    (hkept : kept ≤ host.calls.length) :
    (host.leaveCall kept).trippedAt depth = host.trippedAt depth := by
  unfold trippedAt leaveCall
  rw [List.reverse_drop, Nat.sub_sub_self hkept, List.getElem?_take_of_lt hdepth]

end Host

end ScriptHost
