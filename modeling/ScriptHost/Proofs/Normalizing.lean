import ScriptHost.Proofs.Bookkeeping
import ScriptHost.Proofs.Discovering

/-!
Normalized paths are stable. A path whose parent is a directory is normalized to the entry that it
names there, whether or not there is such an entry, so it stays the same while files come and go and
does not depend on the spelling. What has been normalized once is not changed by normalizing it
again.
-/

namespace ScriptHost

namespace Path

/-- Behind a base, the steps of a relative path follow those of the base. -/
theorem steps_join {base path : Path} (hbase : base.text.toList ≠ [])
    (hpath : path.isAbsolute = false) :
    steps (base.join path).text.toList = steps base.text.toList ++ steps path.text.toList := by
  obtain ⟨front, hpieces, hfront, -, -⟩ := join_pieces hbase hpath
  rw [steps, hpieces, List.filter_append, hfront]
  rfl

/-- A path whose last component is a name ends with the step of that name. -/
theorem steps_of_getLast? {path : Path} {name : String}
    (hlast : path.components.getLast? = some (.normal name)) :
    FileTree.IsName name ∧ ∃ before, steps path.text.toList = before ++ [name.toList] := by
  obtain ⟨start, hcomponents, hstart⟩ := components_split path
  rcases List.eq_nil_or_concat (steps path.text.toList) with hnone | ⟨before, step, hsteps⟩
  · rw [hcomponents, hnone, List.map_nil, List.append_nil] at hlast
    rcases hstart with ⟨rfl, -⟩ | ⟨rfl | rfl, -⟩ <;> cases hlast
  · rw [List.concat_eq_append] at hsteps
    rw [hcomponents, hsteps, List.map_append, List.map_singleton, ← List.append_assoc,
      List.getLast?_concat, Option.some.injEq] at hlast
    have hmem : step ∈ steps path.text.toList := by simp [hsteps]
    obtain ⟨hpiece, hskipped⟩ := List.mem_filter.mp hmem
    have hslash := Text.not_mem_of_mem_pieces hpiece
    unfold ofPiece at hlast
    split at hlast
    · cases hlast
    · rename_i hup
      cases hlast
      simp only [FileTree.IsName, String.toList_ofList]
      exact ⟨⟨hslash, by simpa using hskipped, hup⟩, before, hsteps⟩

theorem fileName?_of_steps {path : Path} {name : String} (hname : FileTree.IsName name)
    {before : List (List Char)} (hsteps : steps path.text.toList = before ++ [name.toList]) :
    path.fileName? = some name := by
  obtain ⟨rest, hlast, -⟩ := lastStep?_of_steps hsteps
  simp [fileName?, hlast, hname.2.2]

/-- The parent of an absolute path is absolute. -/
theorem parent?_isAbsolute {path parent : Path} (habsolute : path.isAbsolute = true)
    (hparent : path.parent? = some parent) : parent.isAbsolute = true := by
  have hslash : path.text.toList.head? = some '/' := by simpa [isAbsolute] using habsolute
  have hhead : head path.text.toList = ['/'] := by rw [head, if_pos hslash]
  unfold parent? at hparent
  simp only [hhead] at hparent
  split at hparent
  · cases hparent
    simp [isAbsolute]
  · cases hparent

end Path

namespace FileTree

variable {tree : FileTree} {path : Path} {trail : Trail} {names : List String} {name : String}

/-! ### Positions that absolute paths lead to -/

theorem absolute_of_isAbsolute (tree : FileTree) (habsolute : path.isAbsolute = true) :
    tree.absolute path = path := if_pos habsolute

/-- Whether a trail goes down from the root, which is a directory, by names. -/
structure Reached (tree : FileTree) (trail : Trail) : Prop where
  root : tree.root.isDirectory = true
  linked : trail.Linked tree.root
  named : ∀ name ∈ trail.names, IsName name

theorem reached_of_locate (habsolute : path.isAbsolute = true)
    (hlocate : tree.locate path = .ok trail) : tree.Reached trail := by
  have hlinked := linked_locate hlocate
  rw [locate_of_absolute habsolute] at hlocate
  refine ⟨?_, hlinked, named_walk (fun name hname => by cases hname) (fun piece hpiece =>
    Text.not_mem_of_mem_pieces hpiece) hlocate⟩
  cases hpieces : Text.pieces '/' path.text.toList with
  | nil => exact absurd hpieces (Text.pieces_ne_nil _ _)
  | cons piece rest =>
      rw [hpieces, walk] at hlocate
      split at hlocate
      · cases hlocate
      · rename_i hdirectory
        simpa [Trail.node] using hdirectory

theorem Trail.names_cons (name : String) (node : FileNode) (rest : Trail) :
    Trail.names ((name, node) :: rest) = Trail.names rest ++ [name] := by
  simp [Trail.names]

/-- The names on the way along a trail lead along it. -/
theorem walk_names (hreached : tree.Reached trail) :
    walk tree.root [] (trail.names.map String.toList) = .ok trail := by
  obtain ⟨hroot, hlinked, hnamed⟩ := hreached
  induction trail with
  | nil => rfl
  | cons entry rest ih =>
      obtain ⟨name, node⟩ := entry
      rw [Trail.names_cons] at hnamed ⊢
      rw [List.map_append, walk_append,
        ih hlinked.2 fun other hother => hnamed other (List.mem_append_left _ hother)]
      exact (walk_name (hnamed name (by simp))).mpr ⟨node, hlinked.1, rfl⟩

/-- The names on the way of any walk along names are those names. -/
theorem names_of_walk_names {start : Trail} (hnames : ∀ name ∈ names, IsName name)
    (hwalk : walk tree.root start (names.map String.toList) = .ok trail) :
    trail.names = start.names ++ names := by
  induction names generalizing start with
  | nil =>
      cases hwalk
      simp
  | cons name rest ih =>
      obtain ⟨hname, hrest⟩ := List.forall_mem_cons.mp hnames
      rw [List.map_cons, ← List.singleton_append, walk_append] at hwalk
      cases hfirst : walk tree.root start [name.toList] with
      | error err =>
          rw [hfirst] at hwalk
          cases hwalk
      | ok middle =>
          rw [hfirst] at hwalk
          obtain ⟨node, -, rfl⟩ := (walk_name hname).mp hfirst
          rw [ih hrest hwalk, Trail.names_cons, List.append_assoc, List.singleton_append]

/-- The path of some names is followed along the names, from a root that is a directory. -/
theorem locate_pathOf (hroot : tree.root.isDirectory = true)
    (hnames : ∀ name ∈ names, IsName name) :
    tree.locate (pathOf names) = walk tree.root [] (names.map String.toList) := by
  have hskip : ∀ parts, walk tree.root [] ([] :: parts) = walk tree.root [] parts := by
    intro parts
    rw [walk, if_neg (by simpa [Trail.node] using hroot)]
    rfl
  rw [locate_of_absolute (pathOf_isAbsolute names), pathOf_toList, Text.pieces_separator, hskip]
  cases names with
  | nil => exact hskip []
  | cons first rest =>
      rw [Path.pieces_joinPieces (by simp)]
      intro piece hpiece
      obtain ⟨name, hname, rfl⟩ := List.mem_map.mp hpiece
      exact (hnames name hname).1

theorem Reached.locate (hreached : tree.Reached trail) :
    tree.locate (pathOf trail.names) = .ok trail := by
  rw [locate_pathOf hreached.root hreached.named, walk_names hreached]

theorem isName_concat (hnames : ∀ name ∈ names, IsName name) (hname : IsName name) :
    ∀ other ∈ names ++ [name], IsName other :=
  List.forall_mem_append.mpr ⟨hnames, List.forall_mem_singleton.mpr hname⟩

/-! ### Normalized paths are normal -/

theorem bodyPieces_pathOf (hnames : ∀ name ∈ names, IsName name) (hne : names ≠ []) :
    Path.bodyPieces (pathOf names).text.toList = names.map String.toList := by
  rw [Path.bodyPieces, head_pathOf, pathOf_toList]
  refine Path.pieces_joinPieces (by simpa using hne) fun piece hpiece => ?_
  obtain ⟨name, hname, rfl⟩ := List.mem_map.mp hpiece
  exact (hnames name hname).1

/-- The path of a name behind some names has these names as its parent, and the name at its end. -/
theorem pathOf_concat (hnames : ∀ name ∈ names, IsName name) (hname : IsName name) :
    (pathOf (names ++ [name])).parent? = some (pathOf names) ∧
      (pathOf (names ++ [name])).fileName? = some name := by
  have hlast : Path.lastStep? (pathOf (names ++ [name])).text.toList =
      some ((names.map String.toList).reverse, name.toList) := by
    rw [Path.lastStep?, bodyPieces_pathOf (isName_concat hnames hname) (by simp), List.map_append,
      List.map_singleton, List.reverse_append, List.reverse_singleton, List.singleton_append,
      Path.dropSkipped, List.dropWhile_cons_of_neg (by simp [hname.2.1])]
  -- no name is skipped, so the parent keeps all of them
  have hkept : Path.dropSkipped (names.map String.toList).reverse =
      (names.map String.toList).reverse := by
    refine List.dropWhile_eq_self_iff.mpr fun hlength hskipped => ?_
    have hmem := List.mem_reverse.mp (List.getElem_mem hlength)
    obtain ⟨other, hother, hsame⟩ := List.mem_map.mp hmem
    rw [← hsame, (hnames other hother).2.1] at hskipped
    cases hskipped
  constructor
  · simp only [Path.parent?, hlast, head_pathOf, hkept, List.reverse_reverse, Option.some.injEq]
    rw [List.singleton_append, ← pathOf_toList, String.ofList_toList]
  · simp [Path.fileName?, hlast, hname.2.2]

/-- The path of a position is normal. -/
theorem Reached.normalize (hreached : tree.Reached trail) :
    tree.normalize (pathOf trail.names) = pathOf trail.names := by
  refine Normalizes.normalize_eq (.there trail ?_)
  rw [tree.absolute_of_isAbsolute (pathOf_isAbsolute _), hreached.locate]

/-- The path of a name at a position is normal, whether or not there is something of that name. -/
theorem Reached.normalize_concat (hreached : tree.Reached trail) (hname : IsName name) :
    tree.normalize (pathOf (trail.names ++ [name])) = pathOf (trail.names ++ [name]) := by
  have hnames := isName_concat hreached.named hname
  have habsolute := tree.absolute_of_isAbsolute (pathOf_isAbsolute (trail.names ++ [name]))
  by_cases hthere : ∃ after, tree.locate (pathOf (trail.names ++ [name])) = .ok after
  · obtain ⟨after, hlocate⟩ := hthere
    rw [locate_pathOf hreached.root hnames] at hlocate
    have hafter : Trail.names after = trail.names ++ [name] :=
      (names_of_walk_names hnames hlocate).trans (List.nil_append _)
    rw [← hafter] at hlocate hnames habsolute ⊢
    refine Normalizes.normalize_eq (.there after ?_)
    rw [habsolute, locate_pathOf hreached.root hnames, hlocate]
  · obtain ⟨hparent, hlast⟩ := pathOf_concat hreached.named hname
    rw [← pathOf_join hreached.named hname] at habsolute hthere hparent hlast ⊢
    refine Normalizes.normalize_eq
      (.beside (pathOf trail.names) trail name ?_ ?_ hreached.locate ?_)
    · rw [habsolute]
      exact not_exists.mp hthere
    · rw [habsolute, hparent]
    · rw [habsolute, hlast]

/-- What is normalized stays so: a path that is there, an entry beside such paths, or a path that
leads nowhere. -/
theorem normalize_normalize (tree : FileTree) (path : Path) :
    tree.normalize (tree.normalize path) = tree.normalize path := by
  have habsolute := tree.absolute_isAbsolute path
  generalize hresult : tree.normalize path = result
  cases hresult ▸ tree.normalizes path with
  | there trail hlocate => exact (reached_of_locate habsolute hlocate).normalize
  | beside parent trail name hlost hparent hlocate hname =>
      have hreached := reached_of_locate (Path.parent?_isAbsolute habsolute hparent) hlocate
      have hlast := Path.fileName?_isName hname
      rw [pathOf_join hreached.named hlast]
      exact hreached.normalize_concat hlast
  | above parent trail hlost hparent hlocate hname =>
      exact (reached_of_locate (Path.parent?_isAbsolute habsolute hparent) hlocate).normalize
  | lost hlost hparent =>
      -- the path is absolute by now, so normalizing it fails in the same way
      have hagain : tree.Normalizes (tree.absolute path) (tree.absolute (tree.absolute path)) := by
        rw [← tree.absolute_of_isAbsolute habsolute] at hlost hparent
        exact .lost hlost hparent
      rw [tree.absolute_of_isAbsolute habsolute] at hagain
      exact hagain.normalize_eq

/-! ### Entries that paths name -/

/-- Whether a path names the entry called `name`, there or not, of the directory that is reached by
`way`: its last component is the name, and its parent leads to the directory. -/
structure NamesEntry (tree : FileTree) (path : Path) (way : List String) (name : String) :
    Prop where
  last : path.components.getLast? = some (.normal name)
  parent : ∃ parent trail, (tree.absolute path).parent? = some parent ∧
    tree.locate parent = .ok trail ∧ (Trail.node tree.root trail).isDirectory = true ∧
    trail.names = way

/-- Where an absolute path leads, its steps alone lead. -/
theorem walk_of_locate (habsolute : path.isAbsolute = true)
    (hlocate : tree.locate path = .ok trail) :
    walk tree.root [] (Path.steps path.text.toList) = .ok trail := by
  rw [locate_of_absolute habsolute] at hlocate
  cases hnode : (Trail.node tree.root trail).isDirectory with
  | true => exact ((walk_steps _).mp ⟨hlocate, hnode⟩).1
  | false => exact walk_steps_of_file (linked_nil _) hlocate hnode

theorem steps_absolute (hlast : path.components.getLast? = some (.normal name)) :
    ∃ before, Path.steps (tree.absolute path).text.toList = before ++ [name.toList] := by
  obtain ⟨-, before, hsteps⟩ := Path.steps_of_getLast? hlast
  unfold absolute
  split
  · exact ⟨before, hsteps⟩
  · rename_i hrelative
    rw [workingPath, Path.steps_join (pathOf_ne_nil _) (by simpa using hrelative), hsteps,
      ← List.append_assoc]
    exact ⟨_, rfl⟩

variable {way : List String}

/-- A path that names an entry of a directory is normalized to the name in the directory. -/
theorem NamesEntry.normalize_eq (hentry : tree.NamesEntry path way name) :
    ∃ trail, tree.Reached trail ∧ trail.names = way ∧ IsName name ∧
      (∃ parent, (tree.absolute path).parent? = some parent ∧
        tree.canonicalize parent = .ok (pathOf way)) ∧
      tree.normalize path = pathOf (way ++ [name]) := by
  obtain ⟨hlast, parent, trail, hparent, hlocate, -, rfl⟩ := hentry
  obtain ⟨hname, -⟩ := Path.steps_of_getLast? hlast
  obtain ⟨before, hsteps⟩ := tree.steps_absolute hlast
  have habsolute := tree.absolute_isAbsolute path
  have habove := Path.parent?_isAbsolute habsolute hparent
  have hreached := reached_of_locate habove hlocate
  refine ⟨trail, hreached, rfl, hname, ⟨parent, hparent, canonicalize_of_locate hlocate⟩, ?_⟩
  by_cases hthere : ∃ after, tree.locate (tree.absolute path) = .ok after
  · -- what is there is below the parent
    obtain ⟨after, hafter⟩ := hthere
    obtain ⟨other, hother, hbefore, -⟩ := Path.exists_parent hsteps
    rw [hparent, Option.some.injEq] at hother
    subst hother
    have hwalk := walk_of_locate habsolute hafter
    rw [hsteps, walk_append, ← hbefore, walk_of_locate habove hlocate] at hwalk
    obtain ⟨node, -, rfl⟩ := (walk_name hname).mp hwalk
    rw [(Normalizes.there _ hafter).normalize_eq, Trail.names_cons]
  · have hbeside := Normalizes.beside parent trail name (not_exists.mp hthere) hparent hlocate
      (Path.fileName?_of_steps hname hsteps)
    rw [hbeside.normalize_eq, pathOf_join hreached.named hname]

/-- The names on the way to an entry and its own are names. -/
theorem NamesEntry.named (hentry : tree.NamesEntry path way name) :
    ∀ other ∈ way ++ [name], IsName other := by
  obtain ⟨trail, hreached, rfl, hname, -⟩ := hentry.normalize_eq
  exact isName_concat hreached.named hname

/-- Paths that name entries are normalized alike exactly if they name one entry. -/
theorem NamesEntry.same_iff {later : FileTree} {other : Path} {way' : List String} {name' : String}
    (hentry : tree.NamesEntry path way name) (hother : later.NamesEntry other way' name') :
    (tree.normalize path).same (later.normalize other) = true ↔ way = way' ∧ name = name' := by
  obtain ⟨-, -, -, -, -, hpath⟩ := hentry.normalize_eq
  obtain ⟨-, -, -, -, -, hpath'⟩ := hother.normalize_eq
  rw [hpath, hpath']
  constructor
  · intro hsame
    obtain ⟨hway, hname⟩ := List.append_inj'
      (pathOf_injective hentry.named hother.named hsame) rfl
    exact ⟨hway, List.singleton_inj.mp hname⟩
  · rintro ⟨rfl, rfl⟩
    simp [Path.same]

/-- The normalized path of an entry is in the directory of the entry, which is there. -/
theorem NamesEntry.node_parent (hentry : tree.NamesEntry path way name) :
    ∃ node, (tree.normalize path).parent? = some (pathOf way) ∧
      tree.node (pathOf way) = .ok node := by
  obtain ⟨trail, hreached, rfl, hname, -, hnormal⟩ := hentry.normalize_eq
  refine ⟨Trail.node tree.root trail, ?_, ?_⟩
  · rw [hnormal, (pathOf_concat hreached.named hname).1]
  · rw [FileTree.node, hreached.locate]
    rfl

end FileTree

namespace Watcher

open FileTree

variable {watcher : Watcher} {tree : FileTree} {files : List Path}

/-- Files that name entries can be watched where the system accepts to watch whatever exists. -/
theorem watch_ok (hfiles : ∀ file ∈ files, ∃ way name, tree.NamesEntry file way name)
    (watcher : Watcher) (id target : Nat) : (watcher.watch tree id target files).2 = .ok () := by
  unfold Watcher.watch register
  dsimp only
  generalize haccepts : (fun directory => (tree.node directory).toBool) = accepts
  cases htaken : takeFiles accepts tree (watcher.unwatch id) (files.map tree.normalize) with
  | mk taken outcome =>
      cases outcome with
      | ok _ => rfl
      | error err =>
          obtain ⟨failing, rest, directory, hlisted, hparent, hrefused, -⟩ :=
            takeFiles_error (congrArg Prod.snd htaken)
          have hmem : failing ∈ files.map tree.normalize := by
            rw [hlisted]
            exact List.mem_append_right _ List.mem_cons_self
          obtain ⟨file, hfile, rfl⟩ := List.mem_map.mp hmem
          obtain ⟨way, name, hentry⟩ := hfiles file hfile
          obtain ⟨node, habove, hnode⟩ := hentry.node_parent
          rw [habove, Option.some.injEq] at hparent
          subst haccepts
          simp only [← hparent, hnode] at hrefused
          cases hrefused

/-- A registration is kept with the normalized paths of its files. -/
theorem register_ok {accepts : Path → Bool} {id target : Nat}
    (hok : (watcher.register accepts tree id target files).2 = .ok ()) :
    ⟨id, target, files.map tree.normalize⟩ ∈
      (watcher.register accepts tree id target files).1.registrations := by
  unfold register at hok ⊢
  dsimp only at hok ⊢
  cases htaken : takeFiles accepts tree (watcher.unwatch id) (files.map tree.normalize) with
  | mk taken outcome =>
      rw [htaken] at hok
      cases outcome with
      | ok _ => exact List.mem_append_right _ (List.mem_singleton_self _)
      | error err => cases hok

end Watcher

namespace FileTree

/-- Normalization is stable. A path that names an entry of a directory is normalized to the name in
the directory, whether or not there is such an entry, so at any two times two such paths are
normalized alike exactly if they name one entry. A normalized path is not changed by normalizing it
again. Hence files that name entries can be watched, and a watched file is known to its registration
whenever a path that names the entry is reported. -/
theorem normalize_stable (tree later : FileTree) :
    (∀ path way name, tree.NamesEntry path way name →
      ∃ parent, (tree.absolute path).parent? = some parent ∧
        tree.canonicalize parent = .ok (pathOf way) ∧
        tree.normalize path = (pathOf way).join ⟨name⟩) ∧
      (∀ path way name other way' name', tree.NamesEntry path way name →
        later.NamesEntry other way' name' →
        ((tree.normalize path).same (later.normalize other) = true ↔ way = way' ∧ name = name')) ∧
      (∀ path, tree.normalize (tree.normalize path) = tree.normalize path) ∧
      ∀ files : List Path, (∀ file ∈ files, ∃ way name, tree.NamesEntry file way name) →
        (∀ (watcher : Watcher) (id target : Nat),
          (watcher.watch tree id target files).2 = .ok ()) ∧
        ∀ (watcher : Watcher) (accepts : Path → Bool) (id target : Nat),
          (watcher.register accepts tree id target files).2 = .ok () →
          ∃ registration ∈ (watcher.register accepts tree id target files).1.registrations,
            registration.id = id ∧ registration.target = target ∧
            ∀ other way name, later.NamesEntry other way name →
              (registration.reads (later.normalize other) = true ↔
                ∃ file ∈ files, tree.NamesEntry file way name) := by
  refine ⟨fun path way name hentry => ?_, fun path way name other way' name' hentry hother =>
    hentry.same_iff hother, tree.normalize_normalize, fun files hfiles =>
    ⟨Watcher.watch_ok hfiles, fun watcher accepts id target hok =>
      ⟨_, Watcher.register_ok hok, rfl, rfl, fun other way name hother => ?_⟩⟩⟩
  · obtain ⟨trail, hreached, rfl, hname, ⟨parent, hparent, habove⟩, hnormal⟩ := hentry.normalize_eq
    exact ⟨parent, hparent, habove, hnormal.trans (pathOf_join hreached.named hname).symm⟩
  · simp only [Registration.reads, List.any_map, List.any_eq_true, Function.comp_apply]
    constructor
    · rintro ⟨file, hfile, hsame⟩
      obtain ⟨way', name', hentry⟩ := hfiles file hfile
      obtain ⟨rfl, rfl⟩ := (hentry.same_iff hother).mp hsame
      exact ⟨file, hfile, hentry⟩
    · rintro ⟨file, hfile, hentry⟩
      exact ⟨file, hfile, (hentry.same_iff hother).mpr ⟨rfl, rfl⟩⟩

/-- A directory with a source file, seen from there. -/
def withSource : FileTree :=
  ⟨.directory [("src", .directory [("a.rhai", .file (.text "1"))])], ["src"]⟩

/-- The directory without the file, seen from the root. -/
def withoutSource : FileTree :=
  ⟨.directory [("src", .directory [])], []⟩

theorem normalize_stable_deleted :
    withSource.NamesEntry ⟨"a.rhai"⟩ ["src"] "a.rhai" ∧
      withoutSource.NamesEntry ⟨"src/.././/src/a.rhai"⟩ ["src"] "a.rhai" ∧
      (withSource.normalize ⟨"a.rhai"⟩).same (withoutSource.normalize ⟨"src/.././/src/a.rhai"⟩) =
        true ∧
      ∃ registration ∈ (Watcher.empty.watch withSource 1 7 [⟨"a.rhai"⟩]).1.registrations,
        registration.target = 7 ∧
        registration.reads (withoutSource.normalize ⟨"src/.././/src/a.rhai"⟩) = true := by
  have hbefore : withSource.NamesEntry ⟨"a.rhai"⟩ ["src"] "a.rhai" :=
    ⟨by decide +kernel, ⟨"/src"⟩, [("src", _)], by decide +kernel, rfl, rfl, rfl⟩
  have hafter : withoutSource.NamesEntry ⟨"src/.././/src/a.rhai"⟩ ["src"] "a.rhai" :=
    ⟨by decide +kernel, ⟨"/src/.././/src"⟩, [("src", _)], by decide +kernel, rfl, rfl, rfl⟩
  obtain ⟨-, hsame, -, hwatch⟩ := normalize_stable withSource withoutSource
  obtain ⟨hok, hknown⟩ := hwatch [⟨"a.rhai"⟩] fun file hfile =>
    ⟨["src"], "a.rhai", by rwa [List.mem_singleton.mp hfile]⟩
  obtain ⟨registration, hmem, -, htarget, hreads⟩ :=
    hknown Watcher.empty _ 1 7 (hok Watcher.empty 1 7)
  exact ⟨hbefore, hafter, (hsame _ _ _ _ _ _ hbefore hafter).mpr ⟨rfl, rfl⟩, registration, hmem,
    htarget, (hreads _ _ _ hafter).mpr ⟨_, List.mem_singleton_self _, hbefore⟩⟩

end FileTree

end ScriptHost
