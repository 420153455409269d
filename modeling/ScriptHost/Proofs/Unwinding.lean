import ScriptHost.Proofs.Courses
import ScriptHost.Proofs.Locating

/-!
The stacks of exceptions. An error that has left calls carries the position of each call in the layer
of the function that was called, so the frame of a function takes its line from the layer of the
next function inside. The stack lists the functions from the inside out and ends with the one that
the host called, which is the outermost layer of every error of a run.
-/

namespace ScriptHost

/-! ### Lines of frames -/

namespace LineMap

/-- Whether a combined line, counted from one, is the line `offset` of a segment. -/
def Holds (map : LineMap) (line : Nat) (segment : Segment) (offset : Nat) : Prop :=
  ∃ index, map.segments[index]? = some segment ∧ offset < segment.lineCount ∧
    line = linesBefore map.segments index + offset + 1

theorem locate_of_holds {map : LineMap} {line : Nat} {segment : Segment} {offset : Nat}
    (hholds : map.Holds line segment offset) :
    map.locate line = some (segment.file, segment.startLine + offset) := by
  obtain ⟨index, hsegment, hoffset, rfl⟩ := hholds
  rw [locate, place?, if_neg (Nat.succ_ne_zero _), Nat.add_sub_cancel,
    placeIn_linesBefore hsegment hoffset]
  rfl

/-- A line is found exactly if some segment holds it. -/
theorem exists_holds_of_locate {map : LineMap} {line : Nat} {place : String × Nat}
    (hlocate : map.locate line = some place) :
    ∃ segment offset, map.Holds line segment offset ∧
      place = (segment.file, segment.startLine + offset) := by
  rw [locate, place?] at hlocate
  split at hlocate
  · cases hlocate
  · rename_i hpositive
    by_cases hwithin : line - 1 < totalLines map.segments
    · obtain ⟨index, offset, segment, hsegment, hoffset, hline⟩ := exists_slot hwithin
      refine ⟨segment, offset, ⟨index, hsegment, hoffset, by omega⟩, ?_⟩
      rw [hline, placeIn_linesBefore hsegment hoffset] at hlocate
      exact (Option.some.inj hlocate).symm
    · rw [placeIn_eq_none (by omega)] at hlocate
      cases hlocate

end LineMap

/-- Whether a frame shows a position of a compiled script: the line of the segment that holds it, or
else the position as it is, under the internal name. -/
def StackFrame.Shows (frame : StackFrame) (compiled : Compiled)
    (position : Option Script.Position) : Prop :=
  (∃ place segment offset, position = some place ∧
      compiled.lines.Holds place.line segment offset ∧
      frame.file = segment.file ∧ frame.line = some (segment.startLine + offset)) ∨
  (∀ place, position = some place → ∀ segment offset,
      ¬ compiled.lines.Holds place.line segment offset) ∧
    frame.file = compiled.internalName ∧ frame.line = position.map Script.Position.line

namespace ScriptException

variable {compiled : Compiled} {name : String} {position : Option Script.Position}

theorem frameAt_function : (frameAt compiled name position).function = name := by
  unfold frameAt
  dsimp only
  split <;> rfl

theorem frameAt_kind :
    (frameAt compiled name position).kind = .script ↔ compiled.hasFunction name = true := by
  unfold frameAt
  dsimp only
  cases compiled.hasFunction name <;> split <;> simp

theorem frameAt_shows : (frameAt compiled name position).Shows compiled position := by
  unfold frameAt
  dsimp only
  split
  · rename_i file line hfound
    obtain ⟨number, hnumber, hlocate⟩ := Option.bind_eq_some_iff.mp hfound
    obtain ⟨place, rfl, rfl⟩ := Option.map_eq_some_iff.mp hnumber
    obtain ⟨segment, offset, hholds, hplace⟩ := LineMap.exists_holds_of_locate hlocate
    cases hplace
    exact .inl ⟨place, segment, offset, rfl, hholds, rfl, rfl⟩
  · rename_i hlost
    refine .inr ⟨?_, rfl, rfl⟩
    rintro place rfl segment offset hholds
    rw [Option.map_some, Option.bind_some, LineMap.locate_of_holds hholds] at hlost
    cases hlost

/-! ### Frames of calls -/

/-- A frame has the position of the call inside it, and the last one that of the error. -/
theorem getElem?_framesOf (compiled : Compiled) (innermost : Option Script.Position)
    (calls : List (String × Option Script.Position)) (place : Nat) :
    (framesOf compiled innermost calls)[place]? =
      calls[place]?.map fun call =>
        frameAt compiled call.1 ((calls[place + 1]?.map Prod.snd).getD innermost) := by
  induction calls generalizing place with
  | nil => rfl
  | cons call rest ih =>
      cases rest with
      | nil =>
          cases place with
          | zero => rfl
          | succ place => rfl
      | cons next rest =>
          cases place with
          | zero => rfl
          | succ place => exact ih place

theorem length_framesOf (compiled : Compiled) (innermost : Option Script.Position)
    (calls : List (String × Option Script.Position)) :
    (framesOf compiled innermost calls).length = calls.length := by
  induction calls with
  | nil => rfl
  | cons call rest ih =>
      cases rest with
      | nil => rfl
      | cons next rest => exact congrArg Nat.succ ih

end ScriptException

/-! ### Layers of errors -/

namespace Script.RuntimeError

/-- An error with layers around it, the outermost first. -/
def nested (layers : List (String × Option Position)) (cause : Cause)
    (position : Option Position) : RuntimeError :=
  layers.foldr (fun layer inner => .inCall layer.1 inner layer.2) (.plain cause position)

variable (layers : List (String × Option Position)) (cause : Cause) (position : Option Position)

@[simp]
theorem calls_nested : (nested layers cause position).calls = layers := by
  induction layers with
  | nil => rfl
  | cons layer rest ih => exact congrArg (layer :: ·) ih

@[simp]
theorem cause_nested : (nested layers cause position).cause = cause := by
  induction layers with
  | nil => rfl
  | cons layer rest ih => exact ih

@[simp]
theorem position_nested : (nested layers cause position).position = position := by
  induction layers with
  | nil => rfl
  | cons layer rest ih => exact ih

/-- Every error is one with layers around it. -/
theorem eq_nested (err : RuntimeError) : err = nested err.calls err.cause err.position := by
  induction err with
  | plain cause position => rfl
  | inCall function inner position ih => exact congrArg (inCall function · position) ih

/-- Whether the outermost layer, if there is one, is that of a function. -/
def WithinCallOf (err : RuntimeError) (function : String) : Prop :=
  ∀ layer, err.calls.head? = some layer → layer.1 = function

theorem leaving_withinCallOf (err : RuntimeError) (function : String)
    (position : Option Position) : (err.leaving function position).WithinCallOf function := by
  intro layer hlayer
  cases err with
  | plain cause inner =>
      unfold leaving at hlayer
      dsimp only at hlayer
      split at hlayer
      · cases hlayer
      · cases hlayer
        rfl
  | inCall name inner inside =>
      cases hlayer
      rfl

end Script.RuntimeError

/-- An error of a called function has left the call, so its outermost layer is that of the
function. -/
theorem Script.leaveCall_withinCallOf {name : String} {position : Option Script.Position}
    {result : Except Script.Signal ScriptValue} {err : Script.RuntimeError}
    (hresult : Script.leaveCall name position result = .error (.error err)) :
    err.WithinCallOf name := by
  unfold leaveCall at hresult
  split at hresult
  · cases hresult
  · cases hresult
    exact Script.RuntimeError.leaving_withinCallOf _ _ _
  · rename_i hother
    exact absurd hresult (hother err)

/-- A call of a function ends as its body has ended for the caller, if there is fuel. -/
theorem Script.callFunction_run (fuel : Nat) (code : Script.Function) (this : Option ScriptValue)
    (args : List ScriptValue) (position : Option Script.Position) (env : Surroundings)
    (state : Script.RunState) :
    ∃ result after left,
      (Script.callFunction (fuel + 1) code this args position env).run state =
        (.ok (Script.leaveCall code.name position result, after), left) := by
  unfold Script.callFunction
  exact ⟨_, _, _, rfl⟩

/-- An error that ends the run of a function has left the call of that function. -/
theorem World.runFunction_withinCallOf {world : World} {function : FunctionRef}
    {this : Option ScriptValue} {args : List ScriptValue} {limit : Option Nat}
    {switch : Option String} {err : Script.RuntimeError}
    (hrun : (world.runFunction function this args limit switch).result = .error (.error err)) :
    err.WithinCallOf function.name := by
  unfold World.runFunction at hrun
  dsimp only at hrun
  split at hrun
  · cases hrun
  next code hcode =>
    have hname : code.name = function.name := by
      have hfound := List.find?_some hcode
      rw [Bool.and_eq_true, beq_iff_eq] at hfound
      exact hfound.1
    obtain ⟨result, after, left, hcall⟩ := Script.callFunction_run (runFuel - 1) code this args none
      (world.surroundings function.compiled) ⟨world.host.enterCall limit switch, 0, 0, [], none⟩
    have hfuel : runFuel - 1 + 1 = runFuel := rfl
    rw [hfuel] at hcall
    rw [hcall] at hrun
    rw [← hname]
    exact Script.leaveCall_withinCallOf hrun

namespace ScriptException

open Script.RuntimeError

variable (function : FunctionRef) (layers : List (String × Option Script.Position))
  (cause : Script.Cause) (position : Option Script.Position)

/-- The functions that an error with layers has been in, from the inside out. -/
def functionsFrom (function : String) (layers : List (String × Option Script.Position)) :
    List String :=
  if layers.isEmpty then [function] else (layers.map Prod.fst).reverse

variable {function layers cause position}

/-- The calls of an error begin with the function that the host called. -/
theorem callsFrom_nested
    (hwithin : (nested layers cause position).WithinCallOf function.name) :
    callsFrom function.name (nested layers cause position) =
      if layers.isEmpty then [(function.name, none)] else layers := by
  unfold callsFrom
  rw [calls_nested]
  cases layers with
  | nil => rfl
  | cons layer rest =>
      have hfirst := hwithin layer (by rw [calls_nested, List.head?_cons])
      rw [List.head?_cons, Option.map_some, if_pos (congrArg some hfirst)]
      rfl

/-- From the inside out, the frames pair the functions with the position of the error followed by
those of the calls. -/
theorem framesOf_reverse (compiled : Compiled) (innermost : Option Script.Position)
    (calls : List (String × Option Script.Position)) :
    (framesOf compiled innermost calls).reverse =
      List.zipWith (frameAt compiled) (calls.reverse.map Prod.fst)
        (innermost :: calls.reverse.map Prod.snd) := by
  refine List.ext_getElem (by simp [length_framesOf]) fun place hframe _ => ?_
  rw [List.length_reverse, length_framesOf] at hframe
  rw [← Option.some_inj, ← List.getElem?_eq_getElem, List.getElem?_reverse (by simpa
    [length_framesOf] using hframe), length_framesOf, getElem?_framesOf,
    List.getElem?_eq_getElem (show calls.length - 1 - place < calls.length by omega)]
  cases place with
  | zero =>
      rw [List.getElem?_eq_none (by omega)]
      simp
  | succ place =>
      have hnext : calls.length - 1 - (place + 1) + 1 = calls.length - 1 - place := by omega
      rw [List.getElem?_eq_getElem (by omega)]
      simp [hnext]

/-- The stack of an error that has left calls of a function. -/
theorem stack_nested (hwithin : (nested layers cause position).WithinCallOf function.name) :
    (ofError function (nested layers cause position)).stack =
      List.zipWith (frameAt function.compiled) (functionsFrom function.name layers)
        (position :: layers.reverse.map Prod.snd) := by
  change (framesOf _ _ _).reverse = _
  rw [callsFrom_nested hwithin, framesOf_reverse, position_nested]
  unfold functionsFrom
  cases layers with
  | nil => rfl
  | cons layer rest =>
      rw [List.isEmpty_cons, List.map_reverse]
      rfl

theorem length_functionsFrom (function : String)
    (layers : List (String × Option Script.Position)) :
    (functionsFrom function layers).length = max layers.length 1 := by
  unfold functionsFrom
  cases layers with
  | nil => rfl
  | cons layer rest => simp

/-- The outermost function is the one that the host called. -/
theorem getLast?_functionsFrom
    (hwithin : (nested layers cause position).WithinCallOf function.name) :
    (functionsFrom function.name layers).getLast? = some function.name := by
  unfold functionsFrom
  cases layers with
  | nil => rfl
  | cons layer rest =>
      have hfirst := hwithin layer (by rw [calls_nested, List.head?_cons])
      simp [hfirst]

theorem stack_functions (hwithin : (nested layers cause position).WithinCallOf function.name) :
    (ofError function (nested layers cause position)).stack.map StackFrame.function =
      functionsFrom function.name layers := by
  have hshort : (functionsFrom function.name layers).length ≤
      (position :: layers.reverse.map Prod.snd).length := by
    rw [length_functionsFrom, List.length_cons, List.length_map, List.length_reverse]
    omega
  rw [stack_nested hwithin, List.map_zipWith]
  simp only [frameAt_function]
  refine List.ext_getElem ?_ fun place _ _ => ?_
  · rw [List.length_zipWith]
    exact Nat.min_eq_left hshort
  · rw [List.getElem_zipWith]

theorem getElem?_stack (hwithin : (nested layers cause position).WithinCallOf function.name)
    {place : Nat} {frame : StackFrame}
    (hframe : (ofError function (nested layers cause position)).stack[place]? = some frame) :
    (functionsFrom function.name layers)[place]? = some frame.function ∧
      ∃ site, (position :: layers.reverse.map Prod.snd)[place]? = some site ∧
        frame = frameAt function.compiled frame.function site := by
  rw [stack_nested hwithin, List.getElem?_zipWith_eq_some] at hframe
  obtain ⟨name, site, hname, hsite, rfl⟩ := hframe
  rw [frameAt_function]
  exact ⟨hname, site, hsite, rfl⟩

/-- Each function behind the innermost one has called the function of the frame before it, at the
position that its frame shows. -/
theorem stack_caller (hwithin : (nested layers cause position).WithinCallOf function.name)
    {place : Nat} {caller : StackFrame}
    (hcaller : (ofError function (nested layers cause position)).stack[place + 1]? = some caller) :
    ∃ called site,
      (ofError function (nested layers cause position)).stack[place]? = some called ∧
        layers.reverse[place]? = some (called.function, site) ∧
        caller.Shows function.compiled site := by
  obtain ⟨-, site, hsite, hshown⟩ := getElem?_stack hwithin hcaller
  rw [List.getElem?_cons_succ, List.getElem?_map] at hsite
  obtain ⟨layer, hlayer, rfl⟩ := Option.map_eq_some_iff.mp hsite
  have hbefore := Nat.lt_of_succ_lt (List.getElem?_eq_some_iff.mp hcaller).1
  have hcalled := List.getElem?_eq_getElem hbefore
  have hfunctions : functionsFrom function.name layers = layers.reverse.map Prod.fst := by
    unfold functionsFrom
    cases layers with
    | nil => cases hlayer
    | cons layer rest => rw [List.isEmpty_cons, List.map_reverse]; rfl
  obtain ⟨hname, -⟩ := getElem?_stack hwithin hcalled
  rw [hfunctions, List.getElem?_map, hlayer, Option.map_some, Option.some.injEq] at hname
  refine ⟨_, layer.2, hcalled, ?_, ?_⟩
  · rw [hlayer, ← hname]
  · rw [hshown]
    exact frameAt_shows

end ScriptException

namespace InvokeError

variable {function : FunctionRef} {err : Script.RuntimeError} {tripped : Option AbortReason}

/-- A failed run is an aborted call exactly if its frame has tripped or the run was ended, and an
exception otherwise. -/
theorem ofRun_cases (function : FunctionRef) (err : Script.RuntimeError)
    (tripped : Option AbortReason) :
    ((tripped.isSome ∨ err.cause = .terminated) ∧
      ∃ reason, ofRun function err tripped = .aborted function.name reason) ∨
    (¬ (tripped.isSome ∨ err.cause = .terminated) ∧
      ofRun function err tripped = .exception (.ofError function err)) := by
  unfold ofRun
  dsimp only
  cases tripped with
  | some reason => exact .inl ⟨.inl rfl, reason, rfl⟩
  | none =>
      rw [Option.none_or]
      split
      · rename_i reason hreason
        split at hreason
        · rename_i hcause
          exact .inl ⟨.inr hcause, reason, rfl⟩
        · cases hreason
      · rename_i hnone
        refine .inr ⟨?_, rfl⟩
        rintro (hsome | hcause)
        · cases hsome
        · rw [hcause] at hnone
          cases hnone

end InvokeError

namespace ScriptException

open Script.RuntimeError

/-- How a failed call is reported, whatever calls its error has left. The stack has one frame for
each layer of the error, or that of the called function if there is none, from the inside out. The
innermost frame shows the position of the error, and every other one the position at which its
function called that of the frame before it. The call counts as aborted exactly if its frame has
tripped or the run was ended. Errors of runs are such errors. -/
theorem failure_reported (function : FunctionRef)
    (layers : List (String × Option Script.Position)) (cause : Script.Cause)
    (position : Option Script.Position)
    (hwithin : ∀ layer, layers.head? = some layer → layer.1 = function.name) :
    let err := nested layers cause position
    let stack := (ofError function err).stack
    (stack.map StackFrame.function = functionsFrom function.name layers ∧
      stack.length = max layers.length 1 ∧
      stack.getLast?.map StackFrame.function = some function.name) ∧
    (∀ frame, stack.head? = some frame → frame.Shows function.compiled position) ∧
    (∀ place caller, stack[place + 1]? = some caller →
      ∃ called site, stack[place]? = some called ∧
        layers.reverse[place]? = some (called.function, site) ∧
        caller.Shows function.compiled site) ∧
    (∀ frame ∈ stack, frame.kind = .script ↔
      function.compiled.hasFunction frame.function = true) ∧
    (∀ tripped : Option AbortReason,
      ((∃ reason, InvokeError.ofRun function err tripped = .aborted function.name reason) ↔
        tripped.isSome ∨ cause = .terminated) ∧
      (¬ (tripped.isSome ∨ cause = .terminated) →
        InvokeError.ofRun function err tripped = .exception (ofError function err))) ∧
    ∀ (world : World) this args limit switch failure,
      (world.runFunction function this args limit switch).result = .error (.error failure) →
        ∃ layers cause position, failure = nested layers cause position ∧
          ∀ layer, layers.head? = some layer → layer.1 = function.name := by
  intro err stack
  have hcalls : err.WithinCallOf function.name := by
    intro layer hlayer
    exact hwithin layer (by rwa [calls_nested] at hlayer)
  refine ⟨⟨stack_functions hcalls, ?_, ?_⟩, ?_, fun place caller => stack_caller hcalls, ?_, ?_,
    fun world this args limit switch failure hrun =>
      ⟨_, _, _, eq_nested failure, World.runFunction_withinCallOf hrun⟩⟩
  · rw [← length_functionsFrom function.name, ← stack_functions hcalls, List.length_map]
  · rw [← List.getLast?_map, stack_functions hcalls, getLast?_functionsFrom hcalls]
  · intro frame hframe
    rw [List.head?_eq_getElem?] at hframe
    obtain ⟨-, site, hsite, hshown⟩ := getElem?_stack hcalls hframe
    cases hsite
    rw [hshown]
    exact frameAt_shows
  · intro frame hframe
    obtain ⟨place, hplace⟩ := List.getElem?_of_mem hframe
    obtain ⟨-, site, -, hshown⟩ := getElem?_stack hcalls hplace
    rw [hshown, frameAt_kind, frameAt_function]
  · intro tripped
    have hcases := InvokeError.ofRun_cases function err tripped
    rw [cause_nested] at hcases
    rcases hcases with ⟨hended, haborted⟩ | ⟨hrunning, hexception⟩
    · exact ⟨iff_of_true haborted hended, fun hrunning => absurd hended hrunning⟩
    · refine ⟨iff_of_false ?_ hrunning, fun _ => hexception⟩
      rintro ⟨reason, haborted⟩
      rw [hexception] at haborted
      cases haborted

/-- A script of two segments, of which the second begins at line 10 of its file. -/
def twoFiles : Compiled :=
  ⟨1, "M-1", ⟨[⟨"outer", [], true, [], []⟩, ⟨"inner", [], true, [], []⟩], []⟩,
    ⟨[.inline "a.rhai" 1 "fn outer() \x7b\n  middle()\n\x7d",
      .inline "b.rhai" 10 "fn inner() \x7b\n  x\n\x7d"]⟩,
    .moduleDefault⟩

/-- Calls of an error, one of them at a line that is in no segment. -/
def threeLayers : List (String × Option Script.Position) :=
  [("outer", none), ("middle", some ⟨2, 3⟩), ("inner", some ⟨9, 1⟩)]

theorem failure_reported_deep :
    (∀ layer, threeLayers.head? = some layer → layer.1 = "outer") ∧
      (ofError ⟨twoFiles, "outer", 0⟩
        (nested threeLayers (.variableNotFound "x") (some ⟨5, 3⟩))).stack =
        [⟨"inner", "b.rhai", some 11, .script⟩, ⟨"middle", "M-1", some 9, .native⟩,
          ⟨"outer", "a.rhai", some 2, .script⟩] ∧
      ∃ reason, InvokeError.ofRun ⟨twoFiles, "outer", 0⟩
        (nested threeLayers .terminated none) none = .aborted "outer" reason := by
  have hwithin : ∀ layer, threeLayers.head? = some layer → layer.1 = "outer" := by
    rintro layer ⟨⟩
    rfl
  obtain ⟨-, -, -, -, hreported, -⟩ :=
    failure_reported ⟨twoFiles, "outer", 0⟩ threeLayers .terminated none hwithin
  exact ⟨hwithin, by decide, (hreported none).1.mpr (.inr rfl)⟩

end ScriptException

end ScriptHost
