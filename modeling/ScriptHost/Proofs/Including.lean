import Mathlib.Data.List.Perm.Subperm
import ScriptHost.Proofs.Trails
import ScriptHost.Source.Prepared

/-!
What include directives bring in. The sources of a compile are the given segments and the files
that directives lead to, theirs, and so on; a file that is a segment already is stood for by the
segment. Preparing follows the directives with a queue: whatever it takes in is reached, and what
it has rewritten has all its directives resolved to files that it has seen. Each file is taken in
once, so the queue is empty before the fuel is spent.
-/

namespace ScriptHost

variable {search : SourceSearch} {tree : FileTree} {segments : List Segment}

theorem Path.same_self (path : Path) : path.same path = true := by simp [Path.same]

/-! ### Directives and what they lead to -/

namespace Segment

/-- The line `offset` of the segment, counted from zero, is an include directive of `target`. -/
def Directive (segment : Segment) (offset : Nat) (target : List Char) : Prop :=
  ∃ line, segment.lines[offset]? = some line ∧ Prepared.includeTarget? line = some target

/-- An include directive of the segment leads to the file at `resolved`. -/
def Includes (search : SourceSearch) (tree : FileTree) (segment : Segment) (resolved : Path) :
    Prop :=
  ∃ offset target, segment.Directive offset target ∧
    search.resolveInclude tree (String.ofList target) ⟨segment.file⟩ = some resolved

/-- The segment as it is compiled: include directives leave empty lines, and every line ends with
a line feed. -/
def rewritten (segment : Segment) : Segment :=
  { segment with code := String.ofList (Text.unlines (segment.lines.map fun line =>
      if (Prepared.includeTarget? line).isSome then [] else line)) }

end Segment

namespace Prepared

/-- The path leads to none of the files that are segments already. -/
def Unlisted (tree : FileTree) (segments : List Segment) (path : Path) : Prop :=
  ∀ disk ∈ diskFiles tree segments, disk.same (tree.normalize path) = false

/-- The sources that include directives lead to from `segments`, where of the included files those
are read that `reads` tells. -/
inductive Reaches (search : SourceSearch) (tree : FileTree) (segments : List Segment)
    (reads : Path → Prop) : Segment → Prop
  | given {segment : Segment} (hmem : segment ∈ segments) :
      Reaches search tree segments reads segment
  | included {source file : Segment} {resolved : Path}
      (hsource : Reaches search tree segments reads source)
      (hincludes : source.Includes search tree resolved) (hreads : reads resolved)
      (hread : Segment.ofFile tree resolved = .ok file) : Reaches search tree segments reads file

/-- The source `segment` has a directive that makes the preparation fail: it names no file, or one
that cannot be read. -/
def Refuses (search : SourceSearch) (tree : FileTree) (segments : List Segment)
    (segment : Segment) (err : BuildError) : Prop :=
  ∃ offset target, segment.Directive offset target ∧
    ((search.resolveInclude tree (String.ofList target) ⟨segment.file⟩ = none ∧
      err = .unresolvedInclude segment.file (segment.startLine + offset) (String.ofList target)) ∨
    ∃ resolved cause,
      search.resolveInclude tree (String.ofList target) ⟨segment.file⟩ = some resolved ∧
      Unlisted tree segments resolved ∧ tree.readText resolved = .error cause ∧
      err = .read resolved cause)

/-- The normalized paths of files that were taken in. -/
def taken (tree : FileTree) (found : List (Path × Segment)) : List Path :=
  found.map fun entry => tree.normalize entry.1

/-! ### Taking files in -/

section Taking

variable {before middle after : Progress} {found more : List (Path × Segment)}

/-- From `before` to `after` the files `found` are taken in, each of them unseen so far. -/
structure Takes (tree : FileTree) (before after : Progress) (found : List (Path × Segment)) :
    Prop where
  seen : after.seen = before.seen ++ taken tree found
  queue : after.queue = before.queue ++ found.map (·.2)
  included : after.included = before.included ++ taken tree found
  read : ∀ entry ∈ found, Segment.ofFile tree entry.1 = .ok entry.2
  fresh : ∀ old ∈ before.seen, ∀ new ∈ taken tree found, old.same new = false
  apart : (taken tree found).Pairwise fun a b => a.same b = false

theorem Takes.refl (tree : FileTree) (progress : Progress) : Takes tree progress progress [] where
  seen := by simp [taken]
  queue := by simp
  included := by simp [taken]
  read := fun entry hentry => absurd hentry List.not_mem_nil
  fresh := fun old _ new hnew => absurd hnew List.not_mem_nil
  apart := .nil

theorem Takes.trans (hfirst : Takes tree before middle found)
    (hsecond : Takes tree middle after more) : Takes tree before after (found ++ more) where
  seen := by rw [hsecond.seen, hfirst.seen, List.append_assoc, taken, taken, taken, List.map_append]
  queue := by rw [hsecond.queue, hfirst.queue, List.append_assoc, List.map_append]
  included := by
    rw [hsecond.included, hfirst.included, List.append_assoc, taken, taken, taken, List.map_append]
  read := by
    intro entry hentry
    rcases List.mem_append.mp hentry with hentry | hentry
    · exact hfirst.read entry hentry
    · exact hsecond.read entry hentry
  fresh := by
    intro old hold new hnew
    rw [taken, List.map_append, List.mem_append] at hnew
    rcases hnew with hnew | hnew
    · exact hfirst.fresh old hold new hnew
    · exact hsecond.fresh old (hfirst.seen ▸ List.mem_append_left _ hold) new hnew
  apart := by
    rw [taken, List.map_append, List.pairwise_append]
    refine ⟨hfirst.apart, hsecond.apart, fun a ha b hb => hsecond.fresh a ?_ b hb⟩
    rw [hfirst.seen]
    exact List.mem_append_right _ ha

/-- Segments in front of the queue do not matter. -/
theorem Takes.behind (htakes : Takes tree before after found) (front : List Segment) :
    Takes tree { before with queue := front ++ before.queue }
      { after with queue := front ++ after.queue } found :=
  { htakes with queue := by simp [htakes.queue] }

theorem Takes.seen_mem (htakes : Takes tree before after found) {path : Path}
    (hseen : before.seen.any (·.same path) = true) : after.seen.any (·.same path) = true := by
  rw [htakes.seen, List.any_append, hseen, Bool.true_or]

theorem includeFile_ok {segment : Segment} {line : Nat} {target : List Char}
    (hok : includeFile search tree segment line target before = .ok after) :
    ∃ resolved found, search.resolveInclude tree (String.ofList target) ⟨segment.file⟩ =
        some resolved ∧ Takes tree before after found ∧ (∀ entry ∈ found, entry.1 = resolved) ∧
      after.seen.any (·.same (tree.normalize resolved)) = true := by
  unfold includeFile at hok
  split at hok
  · cases hok
  · rename_i resolved hresolved
    dsimp only at hok
    split at hok
    · rename_i hseen
      cases hok
      exact ⟨resolved, [], hresolved, .refl tree before,
        fun entry hentry => absurd hentry List.not_mem_nil, hseen⟩
    · rename_i hunseen
      split at hok
      · cases hok
      · rename_i file hfile
        cases hok
        refine ⟨resolved, [(resolved, file)], hresolved, ?_, ?_, ?_⟩
        · have hfresh : ∀ old ∈ before.seen, old.same (tree.normalize resolved) = false := by
            simpa [List.any_eq_true] using hunseen
          refine ⟨rfl, rfl, rfl, ?_, ?_, List.pairwise_singleton _ _⟩
          · intro entry hentry
            rw [List.mem_singleton.mp hentry]
            exact hfile
          · intro old hold new hnew
            rw [List.mem_singleton.mp hnew]
            exact hfresh old hold
        · intro entry hentry
          rw [List.mem_singleton.mp hentry]
        · simp [Path.same_self]

theorem rewriteLines_ok {segment : Segment} {line : Nat} {texts lines : List (List Char)}
    (hok : rewriteLines search tree segment line before texts = .ok (lines, after)) :
    lines = texts.map (fun text => if (includeTarget? text).isSome then [] else text) ∧
    ∃ found, Takes tree before after found ∧
      (∀ entry ∈ found, ∃ text ∈ texts, ∃ target, includeTarget? text = some target ∧
        search.resolveInclude tree (String.ofList target) ⟨segment.file⟩ = some entry.1) ∧
      ∀ text ∈ texts, ∀ target, includeTarget? text = some target → ∃ resolved,
        search.resolveInclude tree (String.ofList target) ⟨segment.file⟩ = some resolved ∧
        after.seen.any (·.same (tree.normalize resolved)) = true := by
  induction texts generalizing line before lines with
  | nil =>
      cases hok
      exact ⟨rfl, [], .refl tree _, fun entry hentry => absurd hentry List.not_mem_nil,
        fun text htext => absurd htext List.not_mem_nil⟩
  | cons text rest ih =>
      unfold rewriteLines at hok
      split at hok
      · rename_i hplain
        split at hok
        · cases hok
        · rename_i others progress hrest
          cases hok
          obtain ⟨hlines, found, htakes, hfound, hcovered⟩ := ih hrest
          refine ⟨by simp [hplain, hlines], found, htakes, fun entry hentry => ?_,
            fun text' htext' target htarget => ?_⟩
          · obtain ⟨text', htext', hincludes⟩ := hfound entry hentry
            exact ⟨text', List.mem_cons_of_mem _ htext', hincludes⟩
          · rcases List.mem_cons.mp htext' with rfl | htext'
            · rw [hplain] at htarget
              cases htarget
            · exact hcovered text' htext' target htarget
      · rename_i target htarget
        split at hok
        · cases hok
        · rename_i middle hinclude
          split at hok
          · cases hok
          · rename_i others progress hrest
            cases hok
            obtain ⟨resolved, first, hresolved, hfirst, hnamed, hseen⟩ := includeFile_ok hinclude
            obtain ⟨hlines, found, htakes, hfound, hcovered⟩ := ih hrest
            refine ⟨by simp [htarget, hlines], first ++ found, hfirst.trans htakes,
              fun entry hentry => ?_, fun text' htext' target' htarget' => ?_⟩
            · rcases List.mem_append.mp hentry with hentry | hentry
              · exact ⟨text, List.mem_cons_self, target, htarget, hnamed entry hentry ▸ hresolved⟩
              · obtain ⟨text', htext', hincludes⟩ := hfound entry hentry
                exact ⟨text', List.mem_cons_of_mem _ htext', hincludes⟩
            · rcases List.mem_cons.mp htext' with rfl | htext'
              · rw [htarget] at htarget'
                cases htarget'
                exact ⟨resolved, hresolved, htakes.seen_mem hseen⟩
              · exact hcovered text' htext' target' htarget'

theorem rewriteLines_error {segment : Segment} {line : Nat} {texts : List (List Char)}
    {err : BuildError}
    (hfails : rewriteLines search tree segment line before texts = .error err) :
    ∃ offset text target, texts[offset]? = some text ∧ includeTarget? text = some target ∧
      ((search.resolveInclude tree (String.ofList target) ⟨segment.file⟩ = none ∧
        err = .unresolvedInclude segment.file (line + offset) (String.ofList target)) ∨
      ∃ resolved cause,
        search.resolveInclude tree (String.ofList target) ⟨segment.file⟩ = some resolved ∧
        (∀ old ∈ before.seen, old.same (tree.normalize resolved) = false) ∧
        tree.readText resolved = .error cause ∧ err = .read resolved cause) := by
  induction texts generalizing line before with
  | nil => cases hfails
  | cons text rest ih =>
      unfold rewriteLines at hfails
      split at hfails
      · split at hfails
        · rename_i err' hrest
          cases hfails
          obtain ⟨offset, text', target, htext', htarget, hcause⟩ := ih hrest
          rw [Nat.add_right_comm] at hcause
          exact ⟨offset + 1, text', target, htext', htarget, hcause⟩
        · cases hfails
      · rename_i target htarget
        split at hfails
        · rename_i err' hinclude
          cases hfails
          refine ⟨0, text, target, rfl, htarget, ?_⟩
          unfold includeFile at hinclude
          split at hinclude
          · rename_i hnone
            cases hinclude
            exact .inl ⟨hnone, rfl⟩
          · rename_i resolved hresolved
            dsimp only at hinclude
            split at hinclude
            · cases hinclude
            · rename_i hunseen
              split at hinclude
              · rename_i cause hcause
                cases hinclude
                refine .inr ⟨resolved, cause, hresolved, by simpa using hunseen, ?_, rfl⟩
                unfold Segment.ofFile at hcause
                split at hcause
                · cases hcause
                · rename_i hread
                  cases hcause
                  exact hread
              · cases hinclude
        · rename_i middle hinclude
          split at hfails
          · rename_i err' hrest
            cases hfails
            obtain ⟨resolved, first, -, hfirst, -⟩ := includeFile_ok hinclude
            obtain ⟨offset, text', target', htext', htarget', hcause⟩ := ih hrest
            refine ⟨offset + 1, text', target', htext', htarget', ?_⟩
            rw [Nat.add_right_comm] at hcause
            rcases hcause with hcause | ⟨found, cause, hfound, hnew, hread⟩
            · exact .inl hcause
            · refine .inr ⟨found, cause, hfound, fun old hold => hnew old ?_, hread⟩
              rw [hfirst.seen]
              exact List.mem_append_left _ hold
          · cases hfails

end Taking

/-! ### The loop -/

section Closing

variable {done originals : List Segment} {progress after : Progress}
  {found more : List (Path × Segment)}

/-- Where the loop starts. -/
def outset (tree : FileTree) (segments : List Segment) : Progress :=
  ⟨diskFiles tree segments, segments, []⟩

/-- What the loop keeps up: it has rewritten `originals`, which with the queue are the given segments
and the files `found` taken in so far. What it took in is reached, and what it rewrote has its
directives resolved. -/
structure Closing (search : SourceSearch) (tree : FileTree) (segments done : List Segment)
    (progress : Progress) (originals : List Segment) (found : List (Path × Segment)) : Prop where
  rewrites : done.reverse = originals.map Segment.rewritten
  takes : Takes tree (outset tree segments)
    { progress with queue := originals ++ progress.queue } found
  reached : ∀ entry ∈ found, ∃ source,
    Reaches search tree segments (Unlisted tree segments) source ∧
    source.Includes search tree entry.1
  resolved : ∀ source ∈ originals, ∀ offset target, source.Directive offset target →
    ∃ resolved, search.resolveInclude tree (String.ofList target) ⟨source.file⟩ = some resolved ∧
      progress.seen.any (·.same (tree.normalize resolved)) = true

theorem closing_outset (search : SourceSearch) (tree : FileTree) (segments : List Segment) :
    Closing search tree segments [] (outset tree segments) [] [] where
  rewrites := rfl
  takes := .refl tree _
  reached := fun _ hentry => absurd hentry List.not_mem_nil
  resolved := fun _ hsource => absurd hsource List.not_mem_nil

theorem Takes.unlisted (htakes : Takes tree (outset tree segments) after found)
    {entry : Path × Segment} (hentry : entry ∈ found) : Unlisted tree segments entry.1 :=
  fun disk hdisk => htakes.fresh disk hdisk _ (List.mem_map_of_mem hentry)

/-- Whatever the loop has rewritten or queued is reached. -/
theorem Closing.reaches (hclosing : Closing search tree segments done progress originals found)
    {source : Segment} (hsource : source ∈ originals ++ progress.queue) :
    Reaches search tree segments (Unlisted tree segments) source := by
  rw [show originals ++ progress.queue = segments ++ found.map (·.2) from hclosing.takes.queue,
    List.mem_append] at hsource
  rcases hsource with hgiven | hfound
  · exact .given hgiven
  · obtain ⟨entry, hentry, rfl⟩ := List.mem_map.mp hfound
    obtain ⟨source, hsource, hincludes⟩ := hclosing.reached entry hentry
    exact .included hsource hincludes (hclosing.takes.unlisted hentry)
      (hclosing.takes.read entry hentry)

theorem Segment.directive_iff {segment : Segment} {target : List Char} :
    (∃ offset, segment.Directive offset target) ↔
      ∃ text ∈ segment.lines, includeTarget? text = some target := by
  constructor
  · rintro ⟨offset, text, htext, htarget⟩
    exact ⟨text, List.mem_of_getElem? htext, htarget⟩
  · rintro ⟨text, htext, htarget⟩
    obtain ⟨offset, hoffset⟩ := List.mem_iff_getElem?.mp htext
    exact ⟨offset, text, hoffset, htarget⟩

/-- One turn of the loop keeps it up. -/
theorem Closing.step {segment : Segment} {queue : List Segment} {lines : List (List Char)}
    (hclosing : Closing search tree segments done progress originals found)
    (hqueue : progress.queue = segment :: queue)
    (hrewrites : rewriteLines search tree segment segment.startLine { progress with queue := queue }
      segment.lines = .ok (lines, after)) :
    ∃ more, Closing search tree segments
      ({ segment with code := String.ofList (Text.unlines lines) } :: done) after
      (originals ++ [segment]) (found ++ more) := by
  obtain ⟨rfl, more, htakes, hincluded, hcovered⟩ := rewriteLines_ok hrewrites
  have hsegment : Reaches search tree segments (Unlisted tree segments) segment :=
    hclosing.reaches (List.mem_append_right _ (hqueue ▸ List.mem_cons_self))
  have hbehind := htakes.behind (originals ++ [segment])
  dsimp only at hbehind
  rw [List.append_assoc, List.singleton_append, ← hqueue] at hbehind
  refine ⟨more, ?_, hclosing.takes.trans hbehind, fun entry hentry => ?_,
    fun source hsource offset target hdirective => ?_⟩
  · rw [List.reverse_cons, hclosing.rewrites, List.map_append]
    rfl
  · rcases List.mem_append.mp hentry with hentry | hentry
    · exact hclosing.reached entry hentry
    · obtain ⟨text, htext, target, htarget, hresolved⟩ := hincluded entry hentry
      obtain ⟨offset, hdirective⟩ := Segment.directive_iff.mpr ⟨text, htext, htarget⟩
      exact ⟨segment, hsegment, offset, target, hdirective, hresolved⟩
  · rcases List.mem_append.mp hsource with hsource | hsource
    · obtain ⟨resolved, hresolved, hseen⟩ :=
        hclosing.resolved source hsource offset target hdirective
      exact ⟨resolved, hresolved, htakes.seen_mem hseen⟩
    · cases List.mem_singleton.mp hsource
      obtain ⟨text, htext, htarget⟩ := Segment.directive_iff.mp ⟨offset, hdirective⟩
      exact hcovered text htext target htarget

/-- No more files are taken in than there are files. -/
theorem Closing.length_found (hnamed : tree.WellNamed)
    (hclosing : Closing search tree segments done progress originals found) :
    found.length ≤ tree.fileCount := by
  have hsub : taken tree found ⊆ tree.files := by
    intro path hpath
    obtain ⟨entry, hentry, rfl⟩ := List.mem_map.mp hpath
    obtain ⟨source, -, offset, target, -, hresolved⟩ := hclosing.reached entry hentry
    obtain ⟨trail, hfile⟩ := SourceSearch.fileAt?_of_resolveInclude hresolved
    exact FileTree.mem_files hnamed hfile
  have hnodup : (taken tree found).Nodup := hclosing.takes.apart.imp fun hapart hsame => by
    rw [hsame, Path.same_self] at hapart
    cases hapart
  have hlength := (hnodup.subperm hsub).length_le
  rw [FileTree.length_files] at hlength
  simpa [taken] using hlength

/-- The fuel that is left is enough for the queue. -/
theorem Closing.length_queue (hnamed : tree.WellNamed)
    (hclosing : Closing search tree segments done progress originals found) {fuel : Nat}
    (hfuel : segments.length + tree.fileCount ≤ originals.length + fuel) :
    progress.queue.length ≤ fuel := by
  have hfound := hclosing.length_found hnamed
  have hlength := congrArg List.length hclosing.takes.queue
  simp only [outset, List.length_append, List.length_map] at hlength
  omega

/-- What the loop ends with. -/
structure Closed (search : SourceSearch) (tree : FileTree) (segments : List Segment)
    (prepared : Prepared) (found : List (Path × Segment)) : Prop where
  rewrites : prepared.lines.segments = (segments ++ found.map (·.2)).map Segment.rewritten
  included : prepared.included = taken tree found
  read : ∀ entry ∈ found, Segment.ofFile tree entry.1 = .ok entry.2
  unlisted : ∀ entry ∈ found, Unlisted tree segments entry.1
  apart : (taken tree found).Pairwise fun a b => a.same b = false
  reached : ∀ entry ∈ found, ∃ source,
    Reaches search tree segments (Unlisted tree segments) source ∧
    source.Includes search tree entry.1
  resolved : ∀ source ∈ segments ++ found.map (·.2), ∀ offset target,
    source.Directive offset target → ∃ resolved,
      search.resolveInclude tree (String.ofList target) ⟨source.file⟩ = some resolved ∧
      (diskFiles tree segments ++ taken tree found).any (·.same (tree.normalize resolved)) = true

theorem Closing.closed (hclosing : Closing search tree segments done progress originals found)
    (hqueue : progress.queue = []) :
    Closed search tree segments ⟨⟨done.reverse⟩, progress.included⟩ found := by
  have hsources : originals = segments ++ found.map (·.2) := by
    simpa [hqueue, outset] using hclosing.takes.queue
  have hseen : progress.seen = diskFiles tree segments ++ taken tree found := hclosing.takes.seen
  exact {
    rewrites := by rw [← hsources]; exact hclosing.rewrites
    included := by simpa [outset] using hclosing.takes.included
    read := hclosing.takes.read
    unlisted := fun entry hentry => hclosing.takes.unlisted hentry
    apart := hclosing.takes.apart
    reached := hclosing.reached
    resolved := by rw [← hsources, ← hseen]; exact hclosing.resolved }

theorem closure_ok (hnamed : tree.WellNamed) {fuel : Nat} {prepared : Prepared}
    (hclosing : Closing search tree segments done progress originals found)
    (hfuel : segments.length + tree.fileCount ≤ originals.length + fuel)
    (hok : closure search tree fuel done progress = .ok prepared) :
    ∃ found, Closed search tree segments prepared found := by
  induction fuel generalizing done progress originals found with
  | zero =>
      have hqueue : progress.queue = [] :=
        List.eq_nil_of_length_eq_zero (Nat.le_zero.mp (hclosing.length_queue hnamed hfuel))
      unfold closure at hok
      rw [hqueue] at hok
      cases hok
      exact ⟨found, hclosing.closed hqueue⟩
  | succ fuel ih =>
      unfold closure at hok
      cases hqueue : progress.queue with
      | nil =>
          rw [hqueue] at hok
          cases hok
          exact ⟨found, hclosing.closed hqueue⟩
      | cons segment queue =>
          rw [hqueue] at hok
          dsimp only at hok
          split at hok
          · cases hok
          · rename_i lines after hrewrites
            obtain ⟨more, hnext⟩ := hclosing.step hqueue hrewrites
            refine ih hnext ?_ hok
            rw [List.length_append, List.length_singleton]
            omega

theorem closure_error {fuel : Nat} {err : BuildError}
    (hclosing : Closing search tree segments done progress originals found)
    (hfails : closure search tree fuel done progress = .error err) :
    ∃ source, Reaches search tree segments (Unlisted tree segments) source ∧
      Refuses search tree segments source err := by
  induction fuel generalizing done progress originals found with
  | zero =>
      unfold closure at hfails
      cases hqueue : progress.queue <;> rw [hqueue] at hfails <;> cases hfails
  | succ fuel ih =>
      unfold closure at hfails
      cases hqueue : progress.queue with
      | nil =>
          rw [hqueue] at hfails
          cases hfails
      | cons segment queue =>
          rw [hqueue] at hfails
          dsimp only at hfails
          split at hfails
          · rename_i err' hrewrites
            cases hfails
            have hsegment : Reaches search tree segments (Unlisted tree segments) segment :=
              hclosing.reaches (List.mem_append_right _ (hqueue ▸ List.mem_cons_self))
            obtain ⟨offset, text, target, htext, htarget, hcause⟩ :=
              rewriteLines_error hrewrites
            refine ⟨segment, hsegment, offset, target, ⟨text, htext, htarget⟩, ?_⟩
            rcases hcause with hcause | ⟨resolved, cause, hresolved, hnew, hread⟩
            · exact .inl hcause
            · refine .inr ⟨resolved, cause, hresolved, fun disk hdisk => hnew disk ?_, hread⟩
              rw [show progress.seen = diskFiles tree segments ++ taken tree found from
                hclosing.takes.seen]
              exact List.mem_append_left _ hdisk
          · rename_i lines after hrewrites
            obtain ⟨more, hnext⟩ := hclosing.step hqueue hrewrites
            exact ih hnext hfails

/-- The loop without a bound on its turns: from `done` and `progress` it ends with a result. -/
inductive Loops (search : SourceSearch) (tree : FileTree) :
    List Segment → Progress → Except BuildError Prepared → Prop
  | ends {done : List Segment} {progress : Progress} (hqueue : progress.queue = []) :
      Loops search tree done progress (.ok ⟨⟨done.reverse⟩, progress.included⟩)
  | fails {done queue : List Segment} {progress : Progress} {segment : Segment} {err : BuildError}
      (hqueue : progress.queue = segment :: queue)
      (hrewrites : rewriteLines search tree segment segment.startLine
        { progress with queue := queue } segment.lines = .error err) :
      Loops search tree done progress (.error err)
  | turns {done queue : List Segment} {progress after : Progress} {segment : Segment}
      {lines : List (List Char)} {result : Except BuildError Prepared}
      (hqueue : progress.queue = segment :: queue)
      (hrewrites : rewriteLines search tree segment segment.startLine
        { progress with queue := queue } segment.lines = .ok (lines, after))
      (hrest : Loops search tree
        ({ segment with code := String.ofList (Text.unlines lines) } :: done) after result) :
      Loops search tree done progress result

/-- The fuel never runs out: the loop ends by itself with the result that the fuel gives. -/
theorem closure_loops (hnamed : tree.WellNamed) {fuel : Nat}
    (hclosing : Closing search tree segments done progress originals found)
    (hfuel : segments.length + tree.fileCount ≤ originals.length + fuel) :
    Loops search tree done progress (closure search tree fuel done progress) := by
  induction fuel generalizing done progress originals found with
  | zero =>
      have hqueue : progress.queue = [] :=
        List.eq_nil_of_length_eq_zero (Nat.le_zero.mp (hclosing.length_queue hnamed hfuel))
      unfold closure
      rw [hqueue]
      exact .ends hqueue
  | succ fuel ih =>
      unfold closure
      cases hqueue : progress.queue with
      | nil => exact .ends hqueue
      | cons segment queue =>
          dsimp only
          cases hrewrites : rewriteLines search tree segment segment.startLine
              { progress with queue := queue } segment.lines with
          | error err => exact .fails hqueue hrewrites
          | ok result =>
              obtain ⟨lines, after⟩ := result
              obtain ⟨more, hnext⟩ := hclosing.step hqueue hrewrites
              refine .turns hqueue hrewrites (ih hnext ?_)
              rw [List.length_append, List.length_singleton]
              omega

theorem ofSegments_ok (hnamed : tree.WellNamed) {prepared : Prepared}
    (hok : ofSegments search tree segments = .ok prepared) :
    segments ≠ [] ∧ ∃ found, Closed search tree segments prepared found := by
  unfold ofSegments at hok
  split at hok
  · cases hok
  · rename_i hne
    exact ⟨by simpa using hne,
      closure_ok hnamed (closing_outset search tree segments) (by simp) hok⟩

theorem ofSegments_error {err : BuildError} (hfails : ofSegments search tree segments = .error err) :
    (segments = [] ∧ err = .empty) ∨ ∃ source,
      Reaches search tree segments (Unlisted tree segments) source ∧
      Refuses search tree segments source err := by
  unfold ofSegments at hfails
  split at hfails
  · rename_i hempty
    cases hfails
    exact .inl ⟨by simpa using hempty, rfl⟩
  · exact .inr (closure_error (closing_outset search tree segments) hfails)

end Closing

end Prepared

end ScriptHost
