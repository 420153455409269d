import ScriptHost.Description
import ScriptHost.Proofs.Granting
import ScriptHost.Proofs.Reading
import ScriptHost.Proofs.Records

/-!
How descriptions are written and what is read from a text. A description in normal form can be
written in many ways: its members come in any order and among unknown ones, blanks stand around its
name, its source files and its access list, and blank source entries among the others. All of them
are read as the description. Whatever is read is in normal form, and what is not read as a
description fails the first of six checks that it does not pass.
-/

namespace ScriptHost

namespace Text

/-- Whether a text is another one with blanks around it. -/
def Padded (text padded : String) : Prop :=
  ∃ before after : Blanks, padded = String.ofList (before.text ++ text.toList ++ after.text)

/-- Whether a text has no blanks at its ends, and something between them. -/
structure Trimmed (text : String) : Prop where
  trimmed : trimString text = text
  some : text ≠ ""

theorem trimString_padded {text padded : String} (htrimmed : trimString text = text)
    (hpadded : Padded text padded) : trimString padded = text := by
  obtain ⟨before, after, rfl⟩ := hpadded
  have hfirm := trim_firm text.toList
  rw [← trimString_toList, htrimmed] at hfirm
  rw [trimString, String.toList_ofList, trim_around hfirm.1 hfirm.2, String.ofList_toList]

theorem trimString_blanks (blanks : Blanks) : trimString (String.ofList blanks.text) = "" :=
  trimString_padded rfl ⟨blanks, default, by simp⟩

theorem trimString_idem (text : String) : trimString (trimString text) = trimString text := by
  obtain ⟨hstart, hend⟩ := trim_firm text.toList
  rw [trimString, trimString_toList, trim_of_firm hstart hend]
  rfl

end Text

namespace Description

open Text

/-- A description in normal form: its name and its source files are trimmed, and it has a source
file. -/
structure Normal (description : Description) : Prop where
  name : Trimmed description.name
  source : description.sourceFiles ≠ []
  sources : ∀ source ∈ description.sourceFiles, Trimmed source

/-! ### How a description is written -/

/-- How a text that may be missing is given by a field. -/
inductive GivesText : Option String → Option Json → Prop
  | omitted : GivesText none none
  | null : GivesText none (some .null)
  | text (text : String) : GivesText (some text) (some (.string (some text)))

/-- How a list of texts is given by a field. -/
inductive GivesTexts : List String → Option Json → Prop
  | omitted : GivesTexts [] none
  | listed (texts : List String) : GivesTexts texts (some (Json.texts texts))

/-- How extra access is given by a field. -/
inductive GivesAccess : AccessMask → Option Json → Prop
  | omitted : GivesAccess .nothing none
  | null : GivesAccess .nothing (some .null)
  | blank (blanks : Blanks) :
      GivesAccess .nothing (some (.string (some (String.ofList blanks.text))))
  | listed {mask : AccessMask} {text : List Char} (hlists : mask.Lists text) :
      GivesAccess mask (some (.string (some (String.ofList text))))

/-- Source files with blanks around them, and blank entries between them. -/
inductive Entries : List String → List String → Prop
  | nil : Entries [] []
  | blank {sources entries : List String} (blanks : Blanks) (hrest : Entries sources entries) :
      Entries sources (String.ofList blanks.text :: entries)
  | source {source entry : String} {sources entries : List String}
      (hentry : Padded source entry) (hrest : Entries sources entries) :
      Entries (source :: sources) (entry :: entries)

/-- The properties of a description, with the version that they give. -/
inductive WritesProperties (description : Description) (version : Option String) : Json → Prop
  | record {access imports exports versionField : Option Json}
      {members : List (Option String × Json)}
      (haccess : GivesAccess description.extraAccess access)
      (himports : GivesTexts description.imports imports)
      (hexports : GivesTexts description.exports exports)
      (hversion : GivesText version versionField)
      (hrecord : Json.IsRecord [("ExtraAccess", access), ("Imports", imports),
        ("Exports", exports), ("Version", versionField)] members) :
      WritesProperties description version (.object members)

/-- The described object of a description, with the version that its properties give. -/
inductive WritesObject (description : Description) (version : Option String) : Json → Prop
  | record {name : String} {properties : Json} {entries : List String}
      {members : List (Option String × Json)}
      (hname : Padded description.name name)
      (hproperties : WritesProperties description version properties)
      (hentries : Entries description.sourceFiles entries)
      (hrecord : Json.IsRecord [("name", some (.string (some name))),
        ("properties", some properties), ("sourcefiles", some (Json.texts entries))] members) :
      WritesObject description version (.object members)

/-- Whether a JSON value is a description file of a description. The version is that of the
properties, or that of the file, or zero if neither gives one. -/
inductive WritesFile (description : Description) : Json → Prop
  | record {own fallback : Option String} {object : Json} {versionField : Option Json}
      {members : List (Option String × Json)}
      (hobject : WritesObject description own object)
      (hversion : GivesText fallback versionField)
      (hchosen : (own.or fallback).getD "0" = description.version)
      (hrecord : Json.IsRecord [("version", versionField), ("objects", some (.array [object]))]
        members) :
      WritesFile description (.object members)

/-! ### What is written is read -/

variable {description : Description}

theorem GivesText.read {text : Option String} {field : Option Json} (hgives : GivesText text field) :
    Json.withDefault none (Json.nullable? Json.string?) field = some text := by
  cases hgives <;> rfl

theorem GivesTexts.read {texts : List String} {field : Option Json}
    (hgives : GivesTexts texts field) :
    Json.withDefault [] (Json.list? Json.string?) field = some texts := by
  cases hgives with
  | omitted => rfl
  | listed => exact Json.list?_texts texts

theorem GivesAccess.read {mask : AccessMask} {field : Option Json}
    (hgives : GivesAccess mask field) :
    ∃ text, Json.withDefault none (Json.nullable? Json.string?) field = some text ∧
      ∀ name, readAccess name text = .ok mask := by
  cases hgives with
  | omitted => exact ⟨none, rfl, fun _ => rfl⟩
  | null => exact ⟨none, rfl, fun _ => rfl⟩
  | blank blanks =>
      refine ⟨some (String.ofList blanks.text), rfl, fun name => ?_⟩
      unfold readAccess
      rw [Option.map_some, trimString_blanks]
      rfl
  | @listed _ text hlists =>
      refine ⟨some (String.ofList text), rfl, fun name => ?_⟩
      have htrim : trimString (String.ofList text) = String.ofList (trim text) := by
        rw [trimString, String.toList_ofList]
      have hsome : String.ofList (trim text) ≠ "" := by
        intro hempty
        exact hlists.trim.ne_nil (by simpa using congrArg String.toList hempty)
      have hparse : AccessMask.parse (String.ofList (trim text)) = .ok mask := by
        rw [AccessMask.parse, String.toList_ofList]
        exact hlists.trim.parseParts _
      unfold readAccess
      rw [Option.map_some, htrim]
      split
      · rename_i hnone
        cases hnone
      · rename_i hempty
        exact absurd (Option.some.inj hempty) hsome
      · rename_i found _ hfound
        rw [← Option.some.inj hfound, hparse]

theorem Entries.trimmed {sources entries : List String} (hentries : Entries sources entries)
    (hsources : ∀ source ∈ sources, Trimmed source) :
    (entries.map trimString).filter (· ≠ "") = sources := by
  induction hentries with
  | nil => rfl
  | blank blanks _ ih =>
      rw [List.map_cons, trimString_blanks, List.filter_cons_of_neg (by simp)]
      exact ih hsources
  | source hentry _ ih =>
      obtain ⟨hsource, hrest⟩ := List.forall_mem_cons.mp hsources
      rw [List.map_cons, trimString_padded hsource.trimmed hentry,
        List.filter_cons_of_pos (by simpa using hsource.some), ih hrest]

/-- Source files are source entries as they stand. -/
theorem Entries.self (sources : List String) : Entries sources sources := by
  induction sources with
  | nil => exact .nil
  | cons source rest ih => exact .source ⟨default, default, by simp⟩ ih

theorem WritesProperties.read {version : Option String} {json : Json}
    (hwrites : WritesProperties description version json) :
    ∃ access, Properties.ofJson? json =
        some ⟨access, description.imports, description.exports, version⟩ ∧
      ∀ name, readAccess name access = .ok description.extraAccess := by
  cases hwrites with
  | record haccess himports hexports hversion hrecord =>
      obtain ⟨access, hread, hmask⟩ := haccess.read
      have hfields := Json.fields?_of_isRecord (by simp) hrecord
      refine ⟨access, ?_, hmask⟩
      simp only [List.map_cons, List.map_nil] at hfields
      unfold Properties.ofJson?
      rw [hfields]
      simp [hread, himports.read, hexports.read, hversion.read]

theorem WritesObject.read {version : Option String} {json : Json}
    (hnormal : description.Normal) (hwrites : WritesObject description version json) :
    ∃ object, Object.ofJson? json = some object ∧ ∀ fallback,
      ofObject description.path fallback object =
        .ok { description with version := (version.or fallback).getD "0" } := by
  cases hwrites with
  | @record name properties entries members hname hproperties hentries hrecord =>
      obtain ⟨access, hread, hmask⟩ := hproperties.read
      have hfields := Json.fields?_of_isRecord (by simp) hrecord
      simp only [List.map_cons, List.map_nil] at hfields
      refine ⟨⟨name, some ⟨access, description.imports, description.exports, version⟩,
        some entries⟩, ?_, fun fallback => ?_⟩
      · have hsome : Json.nullable? Properties.ofJson? properties =
            some (some ⟨access, description.imports, description.exports, version⟩) := by
          cases hproperties with
          | record => exact congrArg (Option.map some) hread
        have hsources : Json.nullable? (Json.list? Json.string?) (Json.texts entries) =
            some (some entries) := congrArg (Option.map some) (Json.list?_texts entries)
        unfold Object.ofJson?
        rw [hfields]
        simp [Json.withDefault, Json.string?, hsome, hsources]
      · unfold ofObject
        dsimp only
        rw [trimString_padded hnormal.name.trimmed hname, if_neg hnormal.name.some]
        rw [Option.getD_some, hentries.trimmed hnormal.sources, if_neg (by simpa using hnormal.source),
          hmask]

/-- A text that is written for a description is read as the description. -/
theorem WritesFile.parse {json : Json} {text : String} (hnormal : description.Normal)
    (hwrites : description.WritesFile json) (htext : Json.Written json text.toList) :
    parse description.path text = .ok description := by
  cases hwrites with
  | @record own fallback object versionField members hobject hversion hchosen hrecord =>
      obtain ⟨found, hread, hof⟩ := hobject.read hnormal
      have hfields := Json.fields?_of_isRecord (by simp) hrecord
      simp only [List.map_cons, List.map_nil] at hfields
      have hfile : File.ofJson? (.object members) = some ⟨fallback, [found]⟩ := by
        have hobjects : Json.withDefault [] (Json.list? Object.ofJson?) (some (.array [object])) =
            some [found] := by simp [Json.withDefault, Json.list?, hread]
        unfold File.ofJson?
        rw [hfields]
        simp [hversion.read, hobjects]
      unfold Description.parse
      rw [Json.parse_eq_some_iff.mpr htext, Option.bind_some, hfile]
      dsimp only
      rw [hof, hchosen]

/-- Every description in normal form has a JSON value that is written for it. -/
theorem exists_writesFile (description : Description) :
    ∃ json, description.WritesFile json :=
  ⟨_, .record
    (.record ⟨default, default, rfl⟩
      (.record (.listed description.extraAccess.lists_text) (.listed _) (.listed _) (.text _)
        (Json.isRecord_given _))
      (Entries.self description.sourceFiles) (Json.isRecord_given _))
    .omitted rfl (Json.isRecord_given _)⟩

/-! ### What is read is in normal form -/

theorem ofObject_eq_ok {path : Path} {version : Option String} {object : Object}
    (hobject : ofObject path version object = .ok description) :
    description.Normal ∧ description.path = path := by
  unfold ofObject at hobject
  dsimp only at hobject
  split at hobject
  · cases hobject
  · rename_i hname
    split at hobject
    · cases hobject
    · split at hobject
      · cases hobject
      · rename_i hsources
        split at hobject
        · cases hobject
        · cases hobject
          refine ⟨⟨⟨trimString_idem _, hname⟩, by simpa using hsources, fun source hsource => ?_⟩,
            rfl⟩
          obtain ⟨hmem, hsome⟩ := List.mem_filter.mp hsource
          obtain ⟨entry, -, rfl⟩ := List.mem_map.mp hmem
          exact ⟨trimString_idem entry, by simpa using hsome⟩

theorem normal_of_parse {path : Path} {text : String}
    (hparse : Description.parse path text = .ok description) :
    description.Normal ∧ description.path = path := by
  unfold Description.parse at hparse
  split at hparse
  · cases hparse
  · split at hparse
    · exact ofObject_eq_ok hparse
    · cases hparse

/-! ### The checks in their order -/

/-- Whether a text is a JSON text of a description file. -/
def Holds (text : String) (file : File) : Prop :=
  ∃ json, Json.Written json text.toList ∧ File.ofJson? json = some file

/-- Which check of a described object fails, the ones before it being passed. -/
inductive Object.Fails (object : Object) : DescriptionError → Prop
  | name (hname : Blank object.name) : Fails object .emptyName
  | properties (hname : ¬ Blank object.name) (hproperties : object.properties = none) :
      Fails object (.missingProperties (trimString object.name))
  | sources {properties : Properties} (hname : ¬ Blank object.name)
      (hproperties : object.properties = some properties)
      (hsources : ∀ entry ∈ object.sourceFiles.getD [], Blank entry) :
      Fails object (.missingSourceFiles (trimString object.name))
  | access {properties : Properties} {entry access : String} {cause : AccessMask.ParseError}
      (hname : ¬ Blank object.name) (hproperties : object.properties = some properties)
      (hentry : entry ∈ object.sourceFiles.getD []) (hsource : ¬ Blank entry)
      (haccess : properties.extraAccess = some access) (hlisted : ¬ Blank access)
      (hcause : AccessMask.parse (trimString access) = .error cause) :
      Fails object (.access (trimString object.name) cause)

/-- Which check of a description file fails, the ones before it being passed. -/
inductive Fails (text : String) : DescriptionError → Prop
  | shape (hshape : ∀ file, ¬ Holds text file) : Fails text .parse
  | count {file : File} (hfile : Holds text file) (hcount : file.objects.length ≠ 1) :
      Fails text (.objectCount file.objects.length)
  | object {version : Option String} {object : Object} {err : DescriptionError}
      (hfile : Holds text ⟨version, [object]⟩) (hobject : object.Fails err) : Fails text err

theorem holds_iff {text : String} {file : File} :
    Holds text file ↔ (Json.parse text.toList).bind File.ofJson? = some file := by
  simp only [Holds, Option.bind_eq_some_iff, Json.parse_eq_some_iff]

theorem blank_entries_iff (object : Object) :
    ((object.sourceFiles.getD []).map trimString).filter (· ≠ "") = [] ↔
      ∀ entry ∈ object.sourceFiles.getD [], Blank entry := by
  rw [List.filter_eq_nil_iff, List.forall_mem_map]
  simp only [ne_eq, decide_not, Bool.not_eq_true', decide_eq_false_iff_not, not_not,
    trimString_eq_empty_iff]

theorem readAccess_some {name access : String} (hlisted : ¬ Blank access) :
    readAccess name (some access) =
      (AccessMask.parse (trimString access)).mapError (.access name) := by
  unfold readAccess
  rw [Option.map_some]
  split
  · rename_i hnone
    cases hnone
  · rename_i hempty
    exact absurd (trimString_eq_empty_iff.mp (Option.some.inj hempty)) hlisted
  · rename_i text _ htext
    rw [← Option.some.inj htext]
    cases AccessMask.parse (trimString access) with
    | error cause => rfl
    | ok mask => rfl

/-- Extra access is refused exactly if it is an access list with a bad part. -/
theorem readAccess_eq_error_iff {name : String} {access : Option String}
    {err : DescriptionError} :
    readAccess name access = .error err ↔ ∃ text cause, access = some text ∧ ¬ Blank text ∧
      AccessMask.parse (trimString text) = .error cause ∧ err = .access name cause := by
  constructor
  · intro herror
    cases access with
    | none => cases herror
    | some text =>
        by_cases hblank : Blank text
        · rw [readAccess, Option.map_some, trimString_eq_empty_iff.mpr hblank] at herror
          cases herror
        · rw [readAccess_some hblank] at herror
          cases hparse : AccessMask.parse (trimString text) with
          | ok mask =>
              rw [hparse] at herror
              cases herror
          | error cause =>
              rw [hparse] at herror
              exact ⟨text, cause, rfl, hblank, hparse, (Except.error.inj herror).symm⟩
  · rintro ⟨text, cause, rfl, hlisted, hcause, rfl⟩
    rw [readAccess_some hlisted, hcause, Except.mapError]

/-- A described object is refused for the first check that it fails. -/
theorem ofObject_eq_error_iff {path : Path} {version : Option String} {object : Object}
    {err : DescriptionError} :
    ofObject path version object = .error err ↔ object.Fails err := by
  constructor
  · intro herror
    unfold ofObject at herror
    dsimp only at herror
    split at herror
    · rename_i hname
      cases herror
      exact .name (trimString_eq_empty_iff.mp hname)
    · rename_i hname
      rw [trimString_eq_empty_iff] at hname
      split at herror
      · rename_i hproperties
        cases herror
        exact .properties hname hproperties
      · rename_i properties hproperties
        split at herror
        · rename_i hsources
          cases herror
          exact .sources hname hproperties
            ((blank_entries_iff object).mp (List.isEmpty_iff.mp hsources))
        · rename_i hsources
          have hentry : ∃ entry ∈ object.sourceFiles.getD [], ¬ Blank entry := by
            rw [List.isEmpty_iff, blank_entries_iff] at hsources
            simpa using hsources
          obtain ⟨entry, hmem, hsource⟩ := hentry
          split at herror
          · rename_i cause haccess
            cases herror
            obtain ⟨access, cause, hgiven, hlisted, hcause, rfl⟩ :=
              readAccess_eq_error_iff.mp haccess
            exact .access hname hproperties hmem hsource hgiven hlisted hcause
          · cases herror
  · intro hfails
    unfold ofObject
    cases hfails with
    | name hname => rw [if_pos (trimString_eq_empty_iff.mpr hname)]
    | properties hname hproperties =>
        rw [if_neg (mt trimString_eq_empty_iff.mp hname), hproperties]
    | sources hname hproperties hsources =>
        rw [if_neg (mt trimString_eq_empty_iff.mp hname), hproperties]
        dsimp only
        rw [if_pos (List.isEmpty_iff.mpr ((blank_entries_iff object).mpr hsources))]
    | access hname hproperties hentry hsource haccess hlisted hcause =>
        have hsources : ¬ (((object.sourceFiles.getD []).map trimString).filter
            (· ≠ "")).isEmpty = true := by
          rw [List.isEmpty_iff, blank_entries_iff]
          exact fun hall => hsource (hall _ hentry)
        rw [if_neg (mt trimString_eq_empty_iff.mp hname), hproperties]
        dsimp only
        rw [if_neg hsources,
          readAccess_eq_error_iff.mpr ⟨_, _, haccess, hlisted, hcause, rfl⟩]

/-- A text is refused for the first check that it fails. -/
theorem parse_eq_error_iff {path : Path} {text : String} {err : DescriptionError} :
    Description.parse path text = .error err ↔ Fails text err := by
  constructor
  · intro herror
    unfold Description.parse at herror
    split at herror
    · rename_i hnone
      cases herror
      refine .shape fun file hfile => ?_
      rw [holds_iff, hnone] at hfile
      cases hfile
    · rename_i file hfile
      rw [← holds_iff] at hfile
      split at herror
      · rename_i object hobjects
        have hsole : Holds text ⟨file.version, [object]⟩ := by
          rw [← hobjects]
          exact hfile
        exact .object hsole (ofObject_eq_error_iff.mp herror)
      · rename_i hcount
        cases herror
        refine .count hfile fun hone => ?_
        obtain ⟨object, hobject⟩ := List.length_eq_one_iff.mp hone
        exact hcount object hobject
  · intro hfails
    unfold Description.parse
    cases hfails with
    | shape hshape =>
        cases hparse : (Json.parse text.toList).bind File.ofJson? with
        | none => rfl
        | some file => exact absurd (holds_iff.mpr hparse) (hshape file)
    | count hfile hcount =>
        rw [holds_iff.mp hfile]
        dsimp only
        split
        · rename_i hobjects
          rw [hobjects] at hcount
          exact absurd rfl hcount
        · rfl
    | object hfile hobject =>
        rw [holds_iff.mp hfile]
        exact ofObject_eq_error_iff.mpr hobject

/-- Descriptions in normal form are what is read from a text. Each of them can be written, and is
read back however it is written: with any blanks and escapes, its members in any order and among
unknown ones, and blanks around its name, its source files and its access list. Whatever else is read
is an error, which is that of the first check that fails. -/
theorem descriptions_round_trip :
    (∀ description : Description, description.Normal →
      (∃ (json : Json) (text : String), description.WritesFile json ∧
        Json.Written json text.toList) ∧
      ∀ (json : Json) (text : String), description.WritesFile json →
        Json.Written json text.toList →
          Description.parse description.path text = .ok description) ∧
    (∀ (path : Path) (text : String) (description : Description),
      Description.parse path text = .ok description →
        description.Normal ∧ description.path = path) ∧
    ∀ (path : Path) (text : String) (err : DescriptionError),
      Description.parse path text = .error err ↔ Fails text err := by
  refine ⟨fun description hnormal => ⟨?_, fun json text hwrites htext =>
    hwrites.parse hnormal htext⟩, fun path text description hparse => normal_of_parse hparse,
    fun path text err => parse_eq_error_iff⟩
  obtain ⟨json, hwrites⟩ := exists_writesFile description
  obtain ⟨text, htext⟩ := Json.exists_written json
  exact ⟨json, String.ofList text, hwrites, by rwa [String.toList_ofList]⟩

/-- A description of a game module with one source file. -/
def described : Description :=
  ⟨⟨"foo.kgm"⟩, "Foo", "1", ⟨true, false, true⟩, [], [], ["main"]⟩

/-- The properties of the description, behind one that no description has. -/
def shuffledProperties : Json :=
  .object [(some "x", .otherNumber), (some "Version", .null),
    (some "ExtraAccess", .string (some " Builtin +FullFileSystem"))]

/-- The described object of the description, from the last member to the first. -/
def shuffledObject : Json :=
  .object [(some "sourcefiles", Json.texts [" ", "\tmain"]),
    (some "properties", shuffledProperties), (some "name", .string (some "Foo "))]

/-- A description file of the description. -/
def shuffledFile : Json :=
  .object [(some "objects", .array [shuffledObject]), (some "version", .string (some "1"))]

/-- The description file as it may be written. -/
def shuffledText : String :=
  "\x7b\"objects\":[\x7b\"sourcefiles\":[\" \",\"\\tmain\"],\"properties\":\x7b\"x\":-1," ++
    ("\"Version\":null,\"E\\u0078traAccess\":\" Builtin +FullFileSystem\"\x7d, \"name\" :" ++
      " \"F\\u006fo \"\x7d],\n\"version\":\"1\"\x7d")

theorem descriptions_round_trip_shuffled :
    described.Normal ∧ described.WritesFile shuffledFile ∧
      Json.Written shuffledFile shuffledText.toList ∧
      Description.parse ⟨"foo.kgm"⟩ shuffledText = .ok described := by
  have hnormal : described.Normal :=
    ⟨⟨by decide, by decide⟩, by decide, by
      simp only [described, List.forall_mem_singleton]
      exact ⟨by decide, by decide⟩⟩
  have hparse : Json.parse shuffledText.toList = some shuffledFile := by
    -- A literal is faster to check as the text of its characters.
    have htext : shuffledText.toList = _ :=
      String.toList_append.trans (congrArg₂ (· ++ ·) String.toList_ofList
        (String.toList_append.trans
          (congrArg₂ (· ++ ·) String.toList_ofList String.toList_ofList)))
    rw [htext]
    set_option maxRecDepth 4000 in rfl
  have hwritten : Json.Written shuffledFile shuffledText.toList :=
    Json.parse_eq_some_iff.mp hparse
  have hbuiltin : AccessMask.ofGroupName? "Builtin" = some .builtinOnly := by decide
  have hfiles : AccessMask.ofGroupName? "FullFileSystem" = some .filesOnly := by decide
  have haccess : GivesAccess described.extraAccess
      (some (.string (some " Builtin +FullFileSystem"))) :=
    .listed (.more ⟨[' '], by simp [isBlank]⟩ ⟨[' '], by simp [isBlank]⟩ hbuiltin (.group default default hfiles))
  have hproperties : described.WritesProperties none shuffledProperties :=
    .record haccess .omitted .omitted .null
      ⟨[("x", .otherNumber)], by simp, List.reverse_perm [_, _, _]⟩
  have hentries : Entries described.sourceFiles [" ", "\tmain"] :=
    .blank ⟨[' '], by simp [isBlank]⟩ (.source ⟨⟨['\t'], by simp [isBlank]⟩, default, by decide⟩ .nil)
  have hname : Padded described.name "Foo " := ⟨default, ⟨[' '], by simp [isBlank]⟩, by decide⟩
  have hobject : described.WritesObject none shuffledObject :=
    .record hname hproperties hentries ⟨[], by simp, List.reverse_perm [_, _, _]⟩
  have hfile : described.WritesFile shuffledFile :=
    .record hobject (.text "1") rfl ⟨[], by simp, List.reverse_perm [_, _]⟩
  exact ⟨hnormal, hfile, hwritten,
    (descriptions_round_trip.1 described hnormal).2 shuffledFile shuffledText hfile hwritten⟩

end Description

end ScriptHost
