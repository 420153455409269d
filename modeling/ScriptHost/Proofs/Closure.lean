import ScriptHost.Proofs.Including

/-!
The closure of the include directives. Preparing succeeds when every directive that it comes to
leads to a file that can be read, and then it has taken in what the directives lead to and
nothing else. The including file decides what a directive leads to, whatever the spelling of its
path, so a source that stands for the same file does as well.
-/

namespace ScriptHost

variable {search : SourceSearch} {tree : FileTree} {segments : List Segment}

theorem Segment.ofFile_eq_ok {path : Path} {file : Segment} :
    Segment.ofFile tree path = .ok file ↔
      ∃ code, tree.readText path = .ok code ∧ file = ⟨path.text, 1, code, true⟩ := by
  unfold Segment.ofFile
  cases tree.readText path with
  | error err => simp
  | ok code => simp [eq_comm]

theorem FileTree.fileAt?_of_readText {path : Path} {code : String}
    (hread : tree.readText path = .ok code) : ∃ trail, tree.fileAt? path = some trail := by
  unfold FileTree.readText FileTree.read FileTree.node at hread
  cases hlocate : tree.locate path with
  | error err =>
      rw [hlocate] at hread
      cases hread
  | ok trail =>
      rw [hlocate, Except.map] at hread
      refine ⟨trail, FileTree.fileAt?_eq_some.mpr ⟨hlocate, ?_⟩⟩
      cases hnode : FileTree.Trail.node tree.root trail with
      | file content => rfl
      | directory entries =>
          rw [hnode] at hread
          cases hread

namespace Segment

/-- One source stands for another: they are the same segment, or have the same text and belong to
the same file. -/
def StandsFor (tree : FileTree) (source other : Segment) : Prop :=
  source = other ∨ source.code = other.code ∧
    ∃ trail, tree.fileAt? ⟨source.file⟩ = some trail ∧ tree.fileAt? ⟨other.file⟩ = some trail

theorem StandsFor.directive {source other : Segment} (hstands : StandsFor tree source other)
    {offset : Nat} {target : List Char} (hdirective : source.Directive offset target) :
    other.Directive offset target := by
  rcases hstands with rfl | ⟨hcode, -⟩
  · exact hdirective
  · rwa [Directive, lines, ← hcode]

theorem StandsFor.resolveInclude {source other : Segment}
    (hstands : StandsFor tree source other) (search : SourceSearch) (target : String) :
    (search.resolveInclude tree target ⟨source.file⟩).map tree.fileAt? =
      (search.resolveInclude tree target ⟨other.file⟩).map tree.fileAt? := by
  rcases hstands with rfl | ⟨-, trail, hsource, hother⟩
  · rfl
  · exact SourceSearch.resolveInclude_congr hsource hother target

/-- Segments of the same file that were read from it have the same text. -/
theorem standsFor_of_ofFile {path other : Path} {file segment : Segment} {trail : FileTree.Trail}
    (hpath : tree.fileAt? path = some trail) (hother : tree.fileAt? other = some trail)
    (hfile : ofFile tree path = .ok file) (hsegment : ofFile tree other = .ok segment) :
    StandsFor tree file segment := by
  obtain ⟨code, hread, rfl⟩ := ofFile_eq_ok.mp hfile
  obtain ⟨code', hread', rfl⟩ := ofFile_eq_ok.mp hsegment
  rw [FileTree.readText_congr hpath hother, hread'] at hread
  cases hread
  exact .inr ⟨rfl, trail, hpath, hother⟩

end Segment

namespace Prepared

variable {found : List (Path × Segment)} {prepared : Prepared} {reads : Path → Prop}

theorem Reaches.imp {reads' : Path → Prop} (himp : ∀ path, reads path → reads' path)
    {source : Segment} (hreaches : Reaches search tree segments reads source) :
    Reaches search tree segments reads' source := by
  induction hreaches with
  | given hmem => exact .given hmem
  | included _ hincludes hreads hread ih => exact .included ih hincludes (himp _ hreads) hread

/-- Each file that directives lead to in the sources that are reached can be read. -/
def Resolves (search : SourceSearch) (tree : FileTree) (segments : List Segment)
    (reads : Path → Prop) : Prop :=
  ∀ source, Reaches search tree segments reads source →
    ∀ offset target, source.Directive offset target → ∃ resolved,
      search.resolveInclude tree (String.ofList target) ⟨source.file⟩ = some resolved ∧
      (reads resolved → ∃ text, tree.readText resolved = .ok text)

/-- The segments that come from files hold what is in the files. -/
def Current (tree : FileTree) (segments : List Segment) : Prop :=
  ∀ segment ∈ segments, segment.fromDisk = true →
    Segment.ofFile tree ⟨segment.file⟩ = .ok segment

/-- Files that are read although they are segments already hold what the segments hold. -/
def Agrees (tree : FileTree) (segments : List Segment) (reads : Path → Prop) : Prop :=
  ∀ path, reads path → ¬Unlisted tree segments path → ∀ trail, tree.fileAt? path = some trail →
    ∃ segment ∈ segments, tree.fileAt? ⟨segment.file⟩ = some trail ∧
      Segment.ofFile tree ⟨segment.file⟩ = .ok segment

theorem agrees_unlisted (tree : FileTree) (segments : List Segment) :
    Agrees tree segments (Unlisted tree segments) :=
  fun _ hunlisted hlisted => absurd hunlisted hlisted

theorem Current.agrees (hnamed : tree.WellNamed) (hcurrent : Current tree segments) :
    Agrees tree segments reads := by
  intro path _ hlisted trail htrail
  simp only [Unlisted, not_forall] at hlisted
  obtain ⟨disk, hdisk, hsame⟩ := hlisted
  obtain ⟨segment, hsegment, rfl⟩ := List.mem_map.mp hdisk
  obtain ⟨hmem, hfrom⟩ := List.mem_filter.mp hsegment
  have hread := hcurrent segment hmem hfrom
  obtain ⟨code, htext, -⟩ := Segment.ofFile_eq_ok.mp hread
  obtain ⟨trail', htrail'⟩ := FileTree.fileAt?_of_readText htext
  have heq := FileTree.fileAt?_eq_of_same hnamed htrail' htrail (by simpa using hsame)
  exact ⟨segment, hmem, heq ▸ htrail', hread⟩

/-- What a directive leads to is a file that was taken in, unless it is a segment already. -/
theorem Closed.taken_in (hnamed : tree.WellNamed)
    (hclosed : Closed search tree segments prepared found) {source : Segment}
    (hsource : source ∈ segments ++ found.map (·.2)) {resolved : Path} {trail : FileTree.Trail}
    (hincludes : source.Includes search tree resolved) (htrail : tree.fileAt? resolved = some trail)
    (hunlisted : Unlisted tree segments resolved) :
    ∃ entry ∈ found, tree.fileAt? entry.1 = some trail := by
  obtain ⟨offset, target, hdirective, hresolved⟩ := hincludes
  obtain ⟨resolved', hresolved', hseen⟩ := hclosed.resolved source hsource offset target hdirective
  rw [hresolved] at hresolved'
  cases hresolved'
  obtain ⟨path, hpath, hsame⟩ := List.any_eq_true.mp hseen
  rcases List.mem_append.mp hpath with hdisk | htaken
  · rw [hunlisted path hdisk] at hsame
    cases hsame
  · obtain ⟨entry, hentry, rfl⟩ := List.mem_map.mp htaken
    obtain ⟨_, -, _, target', -, hentry'⟩ := hclosed.reached entry hentry
    obtain ⟨trail', htrail'⟩ := SourceSearch.fileAt?_of_resolveInclude hentry'
    exact ⟨entry, hentry, FileTree.fileAt?_eq_of_same hnamed htrail' htrail hsame ▸ htrail'⟩

/-- A source that includes a file does so under any of its spellings. -/
theorem includes_of_standsFor {source other : Segment} {resolved : Path}
    (hstands : source.StandsFor tree other) (hincludes : source.Includes search tree resolved) :
    ∃ resolved' trail, other.Includes search tree resolved' ∧
      tree.fileAt? resolved = some trail ∧ tree.fileAt? resolved' = some trail := by
  obtain ⟨offset, target, hdirective, hresolved⟩ := hincludes
  obtain ⟨trail, htrail⟩ := SourceSearch.fileAt?_of_resolveInclude hresolved
  have hmap := hstands.resolveInclude search (String.ofList target)
  rw [hresolved, Option.map_some] at hmap
  obtain ⟨resolved', hresolved', hsame⟩ := Option.map_eq_some_iff.mp hmap.symm
  exact ⟨resolved', trail, ⟨offset, target, hstands.directive hdirective, hresolved'⟩, htrail,
    hsame.trans htrail⟩

theorem unlisted_congr (hnamed : tree.WellNamed) {path other : Path} {trail : FileTree.Trail}
    (hpath : tree.fileAt? path = some trail) (hother : tree.fileAt? other = some trail)
    (hunlisted : Unlisted tree segments path) : Unlisted tree segments other := by
  unfold Unlisted at *
  rw [FileTree.normalize_of_fileAt? hnamed hpath] at hunlisted
  rwa [FileTree.normalize_of_fileAt? hnamed hother]

/-- Whatever is reached is a segment, or one that was taken in stands for it. -/
theorem Closed.stood_for (hnamed : tree.WellNamed)
    (hclosed : Closed search tree segments prepared found) (hagrees : Agrees tree segments reads)
    {source : Segment} (hreaches : Reaches search tree segments reads source) :
    ∃ other ∈ segments ++ found.map (·.2), source.StandsFor tree other := by
  induction hreaches with
  | given hmem => exact ⟨_, List.mem_append_left _ hmem, .inl rfl⟩
  | @included source file resolved _ hincludes hreads hread ih =>
      obtain ⟨other, hother, hstands⟩ := ih
      obtain ⟨resolved', trail, hincludes', htrail, htrail'⟩ :=
        includes_of_standsFor hstands hincludes
      by_cases hunlisted : Unlisted tree segments resolved
      · obtain ⟨entry, hentry, hfile⟩ := hclosed.taken_in hnamed hother hincludes' htrail'
          (unlisted_congr hnamed htrail htrail' hunlisted)
        exact ⟨entry.2, List.mem_append_right _ (List.mem_map_of_mem hentry),
          Segment.standsFor_of_ofFile htrail hfile hread (hclosed.read entry hentry)⟩
      · obtain ⟨segment, hsegment, hfile, hcurrent⟩ :=
          hagrees resolved hreads hunlisted trail htrail
        exact ⟨segment, List.mem_append_left _ hsegment,
          Segment.standsFor_of_ofFile htrail hfile hread hcurrent⟩

/-- A preparation that succeeds has found and read whatever directives lead to. -/
theorem Closed.resolves (hnamed : tree.WellNamed)
    (hclosed : Closed search tree segments prepared found) (hagrees : Agrees tree segments reads) :
    Resolves search tree segments reads := by
  intro source hreaches offset target hdirective
  obtain ⟨other, hother, hstands⟩ := hclosed.stood_for hnamed hagrees hreaches
  obtain ⟨resolved', hresolved', -⟩ :=
    hclosed.resolved other hother offset target (hstands.directive hdirective)
  have hmap := hstands.resolveInclude search (String.ofList target)
  rw [hresolved', Option.map_some] at hmap
  obtain ⟨resolved, hresolved, hsame⟩ := Option.map_eq_some_iff.mp hmap
  obtain ⟨trail, htrail⟩ := SourceSearch.fileAt?_of_resolveInclude hresolved
  refine ⟨resolved, hresolved, fun hreads => ?_⟩
  by_cases hunlisted : Unlisted tree segments resolved
  · obtain ⟨entry, hentry, hfile⟩ := hclosed.taken_in hnamed hother
      ⟨offset, target, hstands.directive hdirective, hresolved'⟩ (hsame.symm.trans htrail)
      (unlisted_congr hnamed htrail (hsame.symm.trans htrail) hunlisted)
    obtain ⟨code, hread, -⟩ := Segment.ofFile_eq_ok.mp (hclosed.read entry hentry)
    exact ⟨code, (FileTree.readText_congr htrail hfile).trans hread⟩
  · obtain ⟨segment, -, hfile, hcurrent⟩ := hagrees resolved hreads hunlisted trail htrail
    obtain ⟨code, hread, -⟩ := Segment.ofFile_eq_ok.mp hcurrent
    exact ⟨code, (FileTree.readText_congr htrail hfile).trans hread⟩

/-- The included files are those that directives lead to and that are no segments already. -/
theorem Closed.mem_included (hnamed : tree.WellNamed)
    (hclosed : Closed search tree segments prepared found) (hagrees : Agrees tree segments reads)
    (hreads : ∀ path, Unlisted tree segments path → reads path) (path : Path) :
    path ∈ prepared.included ↔ ∃ source resolved, Reaches search tree segments reads source ∧
      source.Includes search tree resolved ∧ Unlisted tree segments resolved ∧
      path = tree.normalize resolved := by
  rw [hclosed.included, taken, List.mem_map]
  constructor
  · rintro ⟨entry, hentry, rfl⟩
    obtain ⟨source, hsource, hincludes⟩ := hclosed.reached entry hentry
    exact ⟨source, entry.1, hsource.imp hreads, hincludes, hclosed.unlisted entry hentry, rfl⟩
  · rintro ⟨source, resolved, hsource, hincludes, hunlisted, rfl⟩
    obtain ⟨other, hother, hstands⟩ := hclosed.stood_for hnamed hagrees hsource
    obtain ⟨resolved', trail, hincludes', htrail, htrail'⟩ :=
      includes_of_standsFor hstands hincludes
    obtain ⟨entry, hentry, hfile⟩ := hclosed.taken_in hnamed hother hincludes' htrail'
      (unlisted_congr hnamed htrail htrail' hunlisted)
    exact ⟨entry, hentry, by
      rw [FileTree.normalize_of_fileAt? hnamed hfile, FileTree.normalize_of_fileAt? hnamed htrail]⟩

/-- Each included file has its own segment, read from it. -/
theorem Closed.forall₂_included (hclosed : Closed search tree segments prepared found) :
    List.Forall₂ (fun path file => tree.normalize ⟨file.file⟩ = path ∧
      Segment.ofFile tree ⟨file.file⟩ = .ok file) prepared.included (found.map (·.2)) := by
  rw [hclosed.included, taken, List.forall₂_map_left_iff, List.forall₂_map_right_iff,
    List.forall₂_same]
  intro entry hentry
  have hread := hclosed.read entry hentry
  obtain ⟨code, -, hfile⟩ := Segment.ofFile_eq_ok.mp hread
  rw [show (⟨entry.2.file⟩ : Path) = entry.1 by rw [hfile]]
  exact ⟨rfl, hread⟩

/-- Nothing but a directive that leads nowhere, or to a file that cannot be read, makes the
preparation of segments fail. -/
theorem ofSegments_succeeds (hne : segments ≠ [])
    (hresolves : Resolves search tree segments (Unlisted tree segments)) :
    ∃ prepared, ofSegments search tree segments = .ok prepared := by
  cases hprepared : ofSegments search tree segments with
  | ok prepared => exact ⟨prepared, rfl⟩
  | error err =>
      rcases ofSegments_error hprepared with ⟨hempty, -⟩ | ⟨source, hsource, offset, target,
        hdirective, hcause⟩
      · exact absurd hempty hne
      · obtain ⟨resolved, hresolved, hread⟩ := hresolves source hsource offset target hdirective
        rcases hcause with ⟨hnone, -⟩ | ⟨resolved', cause, hresolved', hunlisted, hcause, -⟩
        · rw [hresolved] at hnone
          cases hnone
        · rw [hresolved] at hresolved'
          cases hresolved'
          obtain ⟨text, htext⟩ := hread hunlisted
          rw [htext] at hcause
          cases hcause

theorem Resolves.imp {reads' : Path → Prop} (himp : ∀ path, reads path → reads' path)
    (hresolves : Resolves search tree segments reads') : Resolves search tree segments reads := by
  intro source hsource offset target hdirective
  obtain ⟨resolved, hresolved, hread⟩ :=
    hresolves source (hsource.imp himp) offset target hdirective
  exact ⟨resolved, hresolved, fun hreads => hread (himp resolved hreads)⟩

theorem ofSegments_iff (hnamed : tree.WellNamed) (hagrees : Agrees tree segments reads)
    (hreads : ∀ path, Unlisted tree segments path → reads path) :
    (∃ prepared, ofSegments search tree segments = .ok prepared) ↔
      segments ≠ [] ∧ Resolves search tree segments reads := by
  constructor
  · rintro ⟨prepared, hok⟩
    obtain ⟨hne, found, hclosed⟩ := ofSegments_ok hnamed hok
    exact ⟨hne, hclosed.resolves hnamed hagrees⟩
  · rintro ⟨hne, hresolves⟩
    exact ofSegments_succeeds hne (hresolves.imp hreads)

/-- The preparation of segments ends by itself. It succeeds if there are segments and each directive
that is reached leads to a file that can be read. The included files are then exactly those that
directives lead to, apart from those that are segments already, each of them once; their texts
stand behind those of the segments. A directive that is reported to lead nowhere is there and
leads nowhere. If the segments hold what their files hold, nothing changes when the directives are
followed through the files of the segments as well. -/
theorem include_closure (search : SourceSearch) (tree : FileTree) (segments : List Segment)
    (hnamed : tree.WellNamed) :
    (segments ≠ [] → Loops search tree [] (outset tree segments)
      (ofSegments search tree segments)) ∧
    ((∃ prepared, ofSegments search tree segments = .ok prepared) ↔
      segments ≠ [] ∧ Resolves search tree segments (Unlisted tree segments)) ∧
    (∀ prepared, ofSegments search tree segments = .ok prepared →
      prepared.included.Pairwise (fun a b => a.same b = false) ∧
      (∀ path ∈ prepared.included, ∀ disk ∈ diskFiles tree segments, disk.same path = false) ∧
      (∀ path, path ∈ prepared.included ↔ ∃ source resolved,
        Reaches search tree segments (Unlisted tree segments) source ∧
        source.Includes search tree resolved ∧ Unlisted tree segments resolved ∧
        path = tree.normalize resolved) ∧
      ∃ files : List Segment,
        List.Forall₂ (fun path file => tree.normalize ⟨file.file⟩ = path ∧
          Segment.ofFile tree ⟨file.file⟩ = .ok file) prepared.included files ∧
        prepared.combined = (segments ++ files).flatMap fun source =>
          segmentText source.rewritten) ∧
    (∀ file line target,
      ofSegments search tree segments = .error (.unresolvedInclude file line target) →
      ∃ source offset, Reaches search tree segments (Unlisted tree segments) source ∧
        source.Directive offset target.toList ∧
        search.resolveInclude tree target ⟨source.file⟩ = none ∧
        file = source.file ∧ line = source.startLine + offset) ∧
    (Current tree segments →
      ((∃ prepared, ofSegments search tree segments = .ok prepared) ↔
        segments ≠ [] ∧ Resolves search tree segments fun _ => True) ∧
      ∀ prepared, ofSegments search tree segments = .ok prepared →
        ∀ path, path ∈ prepared.included ↔ ∃ source resolved,
          Reaches search tree segments (fun _ => True) source ∧
          source.Includes search tree resolved ∧ Unlisted tree segments resolved ∧
          path = tree.normalize resolved) := by
  have hagrees := agrees_unlisted tree segments
  refine ⟨fun hne => ?_, ofSegments_iff hnamed hagrees fun _ hunlisted => hunlisted,
    fun prepared hok => ?_, fun file line target hfails => ?_, fun hcurrent => ⟨?_, ?_⟩⟩
  · rw [ofSegments, if_neg (by simpa using hne)]
    exact closure_loops hnamed (closing_outset search tree segments) (by simp)
  · obtain ⟨-, found, hclosed⟩ := ofSegments_ok hnamed hok
    refine ⟨hclosed.included ▸ hclosed.apart, fun path hpath => ?_,
      hclosed.mem_included hnamed hagrees fun _ hunlisted => hunlisted, found.map (·.2), ?_, ?_⟩
    · rw [hclosed.included] at hpath
      obtain ⟨entry, hentry, rfl⟩ := List.mem_map.mp hpath
      exact hclosed.unlisted entry hentry
    · exact hclosed.forall₂_included
    · rw [combined, hclosed.rewrites, List.flatMap_map]
  · rcases ofSegments_error hfails with ⟨-, hcause⟩ | ⟨source, hsource, offset, target',
      hdirective, hcause⟩
    · cases hcause
    · rcases hcause with ⟨hnone, hcause⟩ | ⟨_, _, -, -, -, hcause⟩
      · cases hcause
        exact ⟨source, offset, hsource, by rwa [String.toList_ofList], hnone, rfl, rfl⟩
      · cases hcause
  · exact ofSegments_iff hnamed (hcurrent.agrees hnamed) fun _ _ => trivial
  · intro prepared hok
    obtain ⟨-, found, hclosed⟩ := ofSegments_ok hnamed hok
    exact hclosed.mem_included hnamed (hcurrent.agrees hnamed) fun _ _ => trivial

/-- Two files that include each other. -/
def mutualFiles : FileTree :=
  ⟨.directory [("a.rhai", .file (.text "#include \"b.rhai\"\nlet x = 1;")),
    ("b.rhai", .file (.text "#include \"a.rhai\"\n"))], []⟩

/-- A segment that includes the first of them. -/
def mutualMain : Segment := .inline "/main.rhai" 1 "#include \"a\""

theorem include_closure_mutual :
    mutualFiles.WellNamed ∧
    Resolves ⟨[], "rhai"⟩ mutualFiles [mutualMain] (Unlisted mutualFiles [mutualMain]) ∧
    (ofSegments ⟨[], "rhai"⟩ mutualFiles [mutualMain]).toOption.map (·.included) =
      some [⟨"/a.rhai"⟩, ⟨"/b.rhai"⟩] := by
  have hnamed : mutualFiles.WellNamed := fun name hname => absurd hname List.not_mem_nil
  have hincluded : (ofSegments ⟨[], "rhai"⟩ mutualFiles [mutualMain]).toOption.map (·.included) =
      some [⟨"/a.rhai"⟩, ⟨"/b.rhai"⟩] := by decide +kernel
  refine ⟨hnamed, ?_, hincluded⟩
  cases hprepared : ofSegments ⟨[], "rhai"⟩ mutualFiles [mutualMain] with
  | error err =>
      rw [hprepared] at hincluded
      cases hincluded
  | ok prepared =>
      exact ((include_closure _ _ _ hnamed).2.1.mp ⟨prepared, hprepared⟩).2

end Prepared

end ScriptHost
