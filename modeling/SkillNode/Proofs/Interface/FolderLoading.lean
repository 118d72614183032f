import SkillNode.Proofs.FileTree.SoundTrees
import SkillNode.Proofs.Interface.CatalogLookups
import SkillNode.Proofs.MappedOutcomes

/-!
# Loading a directory

All interface files below a directory are added, at any depth. A directory is searched and
not added, so one that is called like an interface file ends the loading, and so does a path
that gets too long to be followed. Otherwise the loading succeeds exactly if every file holds
a description, and the keys of the catalog are those that the files are called by.
-/

namespace SkillNode
namespace Interface

open FileTree (Path Place Tree)

/-! ## Files -/

/-- The description that an interface file with some text holds. -/
def fileDescription (file : Path) (text : Text) : Description where
  key := ⟨packageOf file, file.stem⟩
  text := Text.withLineFeeds text
  isService := file.suffix = serviceSuffix
  source := file.text

/-- The content of an interface file is the UTF-8 of a text that has the form its suffix asks
for. -/
def HoldsDescription (file : Path) (content : Bytes) : Prop :=
  ∃ text, Text.ofUtf8 content = .ok text ∧ (fileDescription file text).isAccepted

theorem describe_eq_ok_iff
    {tree : Tree}
    {file : Path}
    {description : Description} :
    describe tree file [] = .ok description ↔
      isInterfacePath file ∧ ∃ content text, tree.read file = .ok content ∧
        Text.ofUtf8 content = .ok text ∧ fileDescription file text = description := by
  unfold describe
  split
  · next isInterface =>
      rw [and_iff_right isInterface]
      cases tree.read file with
      | error error => simp
      | ok content =>
          dsimp only
          cases decodes : Text.ofUtf8 content with
          | error fault => simp [decodes]
          | ok text => simp [decodes, fileDescription]
  · next notInterface => simp [notInterface]

namespace Catalog

/-- Files are added just if all of them can be read as descriptions, and these be added. -/
theorem addFiles_eq_ok_iff
    {tree : Tree}
    {files : List Path}
    {catalog extended : Catalog} :
    (catalog.addFiles tree files).outcome = .ok extended ↔
      ∃ descriptions, files.mapM (fun file => describe tree file []) = .ok descriptions ∧
        (catalog.addDescriptions descriptions).outcome = .ok extended := by
  induction files generalizing catalog with
  | nil => simp [addFiles, addDescriptions, pure, Except.pure]
  | cons file rest restHypothesis =>
      rw [addFiles, Run.outcome_bind, addFile, mapM_cons_eq]
      cases describe tree file [] with
      | error failure => simp [Run.fail, Except.bind]
      | ok description =>
          dsimp only
          cases first : (catalog.addDescription description).outcome with
          | error failure =>
              cases rest.mapM (fun file => describe tree file []) <;>
                simp [addDescriptions, Run.outcome_bind, first, Except.bind]
          | ok between =>
              rw [Except.bind, restHypothesis]
              cases rest.mapM (fun file => describe tree file []) <;>
                simp [addDescriptions, Run.outcome_bind, first, Except.bind]

end Catalog

/-! ## Directories -/

/-- A regular file at any depth below a directory, with a suffix of interface files. -/
def IsInterfaceFile (tree : Tree) (place : Place) (folder file : Path) (content : Bytes) : Prop :=
  ∃ parts, folder.descend parts = file ∧ tree.find? (place ++ parts) = some (.file content) ∧
    isInterfacePath file

/-- A directory at any depth below another. -/
def IsFolderBelow (tree : Tree) (place : Place) (folder inner : Path) : Prop :=
  ∃ parts, parts ≠ [] ∧ folder.descend parts = inner ∧
    tree.find? (place ++ parts) = some .directory

/-- A path that is not too long. -/
def Fits (path : Path) : Prop := (Text.utf8 path.text).length ≤ Tree.maxPathBytes

section Folder

variable {tree : Tree} {place : Place} {folder : Path}

/-- What lies below a directory is listed just if all directories below can be searched. -/
theorem filesBelow_eq_ok_iff
    (leads : tree.locate folder = .ok place)
    {files : List Path} :
    filesBelow tree folder = .ok files ↔
      (∀ inner, IsFolderBelow tree place folder inner → Fits inner) ∧
        ((tree.below place).map folder.descend).filter isInterfacePath = files := by
  unfold filesBelow
  rw [leads]
  dsimp only
  cases found : (tree.below place).find? (isTooDeep tree folder place) with
  | some parts =>
      obtain ⟨isFolder, isLong⟩ : tree.find? (place ++ parts) = some .directory ∧
          Tree.maxPathBytes < (Text.utf8 (folder.descend parts).text).length := by
        simpa [isTooDeep] using List.find?_some found
      obtain ⟨notHere, _⟩ := Tree.mem_below_iff.mp (List.mem_of_find?_eq_some found)
      simp only [reduceCtorEq, false_iff, not_and]
      exact fun fit => absurd (fit _ ⟨parts, notHere, rfl, isFolder⟩) (Nat.not_le.mpr isLong)
  | none =>
      dsimp only
      rw [Except.ok.injEq, iff_and_self]
      rintro - inner ⟨parts, notHere, rfl, isFolder⟩
      have isBelow : parts ∈ tree.below place :=
        Tree.mem_below_iff.mpr ⟨notHere, by rw [isFolder]; exact Option.some_ne_none _⟩
      simpa [isTooDeep, isFolder, Fits] using List.find?_eq_none.mp found parts isBelow

/-- A directory is loaded by describing all files below it and adding the descriptions. -/
theorem load_folder_eq_ok_iff
    (leads : tree.locate folder = .ok place)
    (isFolder : tree.find? place = some .directory)
    {catalog : Catalog} :
    (Catalog.load tree [folder]).outcome = .ok catalog ↔
      ∃ files descriptions, filesBelow tree folder = .ok files ∧
        files.mapM (fun file => describe tree file []) = .ok descriptions ∧
        (∀ description ∈ descriptions, description.isAccepted) ∧
        Catalog.ofEntries (descriptions.filterMap Description.entry?) = catalog := by
  have isThere : tree.entryAt folder = .ok .directory := by
    rw [Tree.entryAt, leads]
    dsimp only
    rw [isFolder]
  have onePath : (Catalog.load tree [folder]).outcome =
      (Catalog.empty.addPath tree folder).outcome := by
    rw [Catalog.load, Catalog.addPaths, Run.outcome_bind]
    cases (Catalog.empty.addPath tree folder).outcome <;> rfl
  have addsFiles : (Catalog.empty.addPath tree folder).outcome = .ok catalog ↔
      ∃ files, filesBelow tree folder = .ok files ∧
        (Catalog.empty.addFiles tree files).outcome = .ok catalog := by
    rw [Catalog.addPath, isThere]
    dsimp only
    cases filesBelow tree folder with
    | error error => simp [Run.fail]
    | ok files => cases files <;> simp [Catalog.addFiles, Run.ofResult]
  rw [onePath, addsFiles]
  simp only [Catalog.addFiles_eq_ok_iff, Catalog.addDescriptions_eq_ok_iff, ← exists_and_left]
  rfl

/-- The files that are added are the interface files below the directory, besides directories
that are called like interface files. -/
theorem mem_filesBelow_iff
    (leads : tree.locate folder = .ok place)
    (isFolder : tree.find? place = some .directory)
    {files : List Path}
    (lists : filesBelow tree folder = .ok files)
    {file : Path} :
    file ∈ files ↔
      (∃ content, IsInterfaceFile tree place folder file content) ∨
        IsFolderBelow tree place folder file ∧ isInterfacePath file := by
  obtain ⟨_, rfl⟩ := (filesBelow_eq_ok_iff leads).mp lists
  simp only [List.mem_filter, List.mem_map, Tree.mem_below_iff]
  constructor
  · rintro ⟨⟨parts, ⟨notHere, stands⟩, rfl⟩, isInterface⟩
    obtain ⟨entry, found⟩ := Option.ne_none_iff_exists'.mp stands
    cases entry with
    | file content => exact .inl ⟨content, parts, rfl, found, isInterface⟩
    | directory => exact .inr ⟨⟨parts, notHere, rfl, found⟩, isInterface⟩
  · rintro (⟨content, parts, rfl, found, isInterface⟩ |
      ⟨⟨parts, notHere, rfl, found⟩, isInterface⟩)
    · have notHere : parts ≠ [] := by
        rintro rfl
        rw [List.append_nil, isFolder] at found
        cases found
      exact ⟨⟨parts, ⟨notHere, by simp [found]⟩, rfl⟩, isInterface⟩
    · exact ⟨⟨parts, ⟨notHere, by simp [found]⟩, rfl⟩, isInterface⟩

/-- What an interface file below a directory is described by. -/
theorem describe_below_iff
    (sound : tree.IsSound)
    (leads : tree.locate folder = .ok place)
    {file : Path}
    {content : Bytes}
    (isFile : IsInterfaceFile tree place folder file content)
    {description : Description} :
    describe tree file [] = .ok description ↔
      Fits file ∧ ∃ text, Text.ofUtf8 content = .ok text ∧
        fileDescription file text = description := by
  obtain ⟨parts, rfl, found, isInterface⟩ := isFile
  have stands : tree.find? (place ++ parts) ≠ none := by simp [found]
  rw [describe_eq_ok_iff, and_iff_right isInterface]
  simp only [sound.read_descend_eq_ok_iff leads stands, found, Option.some.injEq,
    FileTree.Entry.file.injEq]
  constructor
  · rintro ⟨stored, text, ⟨rfl, fits⟩, decodes, describes⟩
    exact ⟨fits, text, decodes, describes⟩
  · rintro ⟨fits, text, decodes, describes⟩
    exact ⟨content, text, ⟨rfl, fits⟩, decodes, describes⟩

/-- A directory is never described. -/
theorem describe_folderBelow
    (sound : tree.IsSound)
    (leads : tree.locate folder = .ok place)
    {inner : Path}
    (isBelow : IsFolderBelow tree place folder inner)
    (description : Description) :
    describe tree inner [] ≠ .ok description := by
  obtain ⟨parts, _, rfl, found⟩ := isBelow
  have stands : tree.find? (place ++ parts) ≠ none := by simp [found]
  intro describes
  obtain ⟨_, content, _, reads, _⟩ := describe_eq_ok_iff.mp describes
  have isFile := ((sound.read_descend_eq_ok_iff leads stands).mp reads).1
  rw [found] at isFile
  cases isFile

/-- Some descriptions are those of all interface files below a directory. -/
structure AreDescribed (tree : Tree) (place : Place) (folder : Path)
    (descriptions : List Description) : Prop where
  files : ∀ file content, IsInterfaceFile tree place folder file content →
    Fits file ∧ ∃ text, Text.ofUtf8 content = .ok text ∧ fileDescription file text ∈ descriptions
  descriptions : ∀ description ∈ descriptions,
    ∃ file content text, IsInterfaceFile tree place folder file content ∧
      Text.ofUtf8 content = .ok text ∧ fileDescription file text = description

/-- What is read of the files that are listed below a directory are their descriptions. -/
theorem areDescribed_of_mapM
    (sound : tree.IsSound)
    (leads : tree.locate folder = .ok place)
    (isFolder : tree.find? place = some .directory)
    {files : List Path}
    {descriptions : List Description}
    (lists : filesBelow tree folder = .ok files)
    (mapped : files.mapM (fun file => describe tree file []) = .ok descriptions) :
    AreDescribed tree place folder descriptions where
  files file content isFile := by
    obtain ⟨description, member, describes⟩ := exists_of_mapM_ok mapped
      ((mem_filesBelow_iff leads isFolder lists).mpr (.inl ⟨content, isFile⟩))
    obtain ⟨fits, text, decodes, rfl⟩ := (describe_below_iff sound leads isFile).mp describes
    exact ⟨fits, text, decodes, member⟩
  descriptions description member := by
    obtain ⟨file, isListed, describes⟩ := exists_of_mem_mapM mapped member
    rcases (mem_filesBelow_iff leads isFolder lists).mp isListed with
      ⟨content, isFile⟩ | ⟨isBelow, _⟩
    · obtain ⟨_, text, decodes, same⟩ := (describe_below_iff sound leads isFile).mp describes
      exact ⟨file, content, text, isFile, decodes, same⟩
    · exact absurd describes (describe_folderBelow sound leads isBelow description)

/-- A directory that is loaded has nothing below it that ends the loading. -/
theorem holds_of_load_folder
    (sound : tree.IsSound)
    (leads : tree.locate folder = .ok place)
    (isFolder : tree.find? place = some .directory)
    {catalog : Catalog}
    (loads : (Catalog.load tree [folder]).outcome = .ok catalog) :
    (∀ file content, IsInterfaceFile tree place folder file content →
        HoldsDescription file content ∧ Fits file) ∧
      ∀ inner, IsFolderBelow tree place folder inner →
        isInterfacePath inner = false ∧ Fits inner := by
  obtain ⟨files, descriptions, lists, mapped, areAccepted, _⟩ :=
    (load_folder_eq_ok_iff leads isFolder).mp loads
  have described := areDescribed_of_mapM sound leads isFolder lists mapped
  refine ⟨fun file content isFile => ?_, fun inner isBelow => ⟨?_, ?_⟩⟩
  · obtain ⟨fits, text, decodes, member⟩ := described.files file content isFile
    exact ⟨⟨text, decodes, areAccepted _ member⟩, fits⟩
  · by_contra isInterface
    rw [Bool.not_eq_false] at isInterface
    obtain ⟨description, _, describes⟩ := exists_of_mapM_ok mapped
      ((mem_filesBelow_iff leads isFolder lists).mpr (.inr ⟨isBelow, isInterface⟩))
    exact describe_folderBelow sound leads isBelow description describes
  · exact ((filesBelow_eq_ok_iff leads).mp lists).1 inner isBelow

/-- A directory with nothing below it that ends the loading is loaded. -/
theorem exists_load_folder
    (sound : tree.IsSound)
    (leads : tree.locate folder = .ok place)
    (isFolder : tree.find? place = some .directory)
    (filesHold : ∀ file content, IsInterfaceFile tree place folder file content →
      HoldsDescription file content ∧ Fits file)
    (foldersHold : ∀ inner, IsFolderBelow tree place folder inner →
      isInterfacePath inner = false ∧ Fits inner) :
    ∃ catalog, (Catalog.load tree [folder]).outcome = .ok catalog := by
  have lists := (filesBelow_eq_ok_iff leads).mpr
    ⟨fun inner isBelow => (foldersHold inner isBelow).2, rfl⟩
  cases mapped : (((tree.below place).map folder.descend).filter isInterfacePath).mapM
      (fun file => describe tree file []) with
  | error failure =>
      -- Files are described, so it would be a directory that is not.
      obtain ⟨file, isListed, fails⟩ := exists_of_mapM_error mapped
      rcases (mem_filesBelow_iff leads isFolder lists).mp isListed with
        ⟨content, isFile⟩ | ⟨isBelow, isInterface⟩
      · obtain ⟨⟨text, decodes, _⟩, fits⟩ := filesHold file content isFile
        rw [(describe_below_iff sound leads isFile).mpr ⟨fits, text, decodes, rfl⟩] at fails
        cases fails
      · rw [(foldersHold file isBelow).1] at isInterface
        cases isInterface
  | ok descriptions =>
      have described := areDescribed_of_mapM sound leads isFolder lists mapped
      refine ⟨_, (load_folder_eq_ok_iff leads isFolder).mpr
        ⟨_, descriptions, lists, mapped, fun description member => ?_, rfl⟩⟩
      obtain ⟨file, content, text, isFile, decodes, rfl⟩ :=
        described.descriptions description member
      obtain ⟨⟨sameText, decodesToo, isAccepted⟩, _⟩ := filesHold file content isFile
      obtain rfl := Except.ok.inj (decodes.symm.trans decodesToo)
      exact isAccepted

/-- A directory of a sound tree is loaded exactly if every interface file below it holds a
description, no directory below it is called like an interface file, and no path to one of
these is too long. Then the keys of the catalog are those that the files are called by, and
its entries are made from what the files hold. -/
theorem load_folder_iff
    (sound : tree.IsSound)
    (leads : tree.locate folder = .ok place)
    (isFolder : tree.find? place = some .directory) :
    ((∃ catalog, (Catalog.load tree [folder]).outcome = .ok catalog) ↔
      (∀ file content, IsInterfaceFile tree place folder file content →
          HoldsDescription file content ∧ Fits file) ∧
        ∀ inner, IsFolderBelow tree place folder inner →
          isInterfacePath inner = false ∧ Fits inner) ∧
    ∀ catalog, (Catalog.load tree [folder]).outcome = .ok catalog →
      (∀ key, key ∈ catalog.keys ↔
        ∃ file content, IsInterfaceFile tree place folder file content ∧
          key = ⟨packageOf file, file.stem⟩) ∧
      ∀ entry ∈ catalog.entries,
        ∃ file content text, IsInterfaceFile tree place folder file content ∧
          Text.ofUtf8 content = .ok text ∧
            Description.entry? (fileDescription file text) = some entry := by
  refine ⟨⟨fun ⟨catalog, loads⟩ => holds_of_load_folder sound leads isFolder loads,
    fun ⟨filesHold, foldersHold⟩ =>
      exists_load_folder sound leads isFolder filesHold foldersHold⟩, fun catalog loads => ?_⟩
  obtain ⟨files, descriptions, lists, mapped, areAccepted, rfl⟩ :=
    (load_folder_eq_ok_iff leads isFolder).mp loads
  have described := areDescribed_of_mapM sound leads isFolder lists mapped
  refine ⟨fun key => (Catalog.mem_keys_ofDescriptions_iff descriptions key).trans ⟨?_, ?_⟩,
    fun entry member => ?_⟩
  · rintro ⟨description, member, _, rfl⟩
    obtain ⟨file, content, text, isFile, _, rfl⟩ := described.descriptions description member
    exact ⟨file, content, isFile, rfl⟩
  · rintro ⟨file, content, isFile, rfl⟩
    obtain ⟨_, text, _, member⟩ := described.files file content isFile
    exact ⟨_, member, areAccepted _ member, rfl⟩
  · obtain ⟨description, isDescription, makes⟩ :=
      List.mem_filterMap.mp (Catalog.mem_of_mem_ofEntries member)
    obtain ⟨file, content, text, isFile, decodes, rfl⟩ :=
      described.descriptions description isDescription
    exact ⟨file, content, text, isFile, decodes, makes⟩

end Folder

/-- A directory with a message, a service further down, and another file. -/
def nestedTree : Tree :=
  (((Tree.empty ["work"]).plant ["d", "T.msg"] (.file (Text.utf8 "bool ok\n"))).plant
    ["d", "p", "srv", "S.srv"] (.file (Text.utf8 "---\n"))).plant ["d", "notes.txt"] (.file [])

/-- The message and the service are loaded, and no directory is in the way. -/
theorem load_folder_nested :
    ∃ catalog, (Catalog.load nestedTree [Path.ofText "d"]).outcome = .ok catalog ∧
      catalog.keys = [⟨"d", "T"⟩, ⟨"p", "S"⟩] ∧
      (∀ key, key ∈ catalog.keys ↔
        ∃ file content, IsInterfaceFile nestedTree ["work", "d"] (Path.ofText "d") file content ∧
          key = ⟨packageOf file, file.stem⟩) ∧
      ∀ inner, IsFolderBelow nestedTree ["work", "d"] (Path.ofText "d") inner →
        isInterfacePath inner = false ∧ Fits inner := by
  have loaded : (Catalog.load nestedTree [Path.ofText "d"]).outcome.toOption.map Catalog.keys =
      some [⟨"d", "T"⟩, ⟨"p", "S"⟩] := by
    decide +kernel
  obtain ⟨catalog, isLoaded, keys⟩ := Option.map_eq_some_iff.mp loaded
  have loads := eq_ok_of_toOption isLoaded
  have sound : nestedTree.IsSound := by decide +kernel
  have leads : nestedTree.locate (Path.ofText "d") = .ok ["work", "d"] := by decide +kernel
  have isFolder : nestedTree.find? ["work", "d"] = some .directory := by decide +kernel
  obtain ⟨succeeds, registers⟩ := load_folder_iff sound leads isFolder
  exact ⟨catalog, loads, keys, (registers catalog loads).1, (succeeds.mp ⟨catalog, loads⟩).2⟩

/-- A directory with a message and, beside it, a directory that is called like one. -/
def trapTree : Tree :=
  ((Tree.empty ["work"]).plant ["d", "T.msg"] (.file (Text.utf8 "bool ok\n"))).plant
    ["d", "x.msg"] .directory

/-- Every interface file below the directory holds a description, but the directory beside
them is read like a file. -/
theorem load_folder_readsFolder :
    trapTree.IsSound ∧
      trapTree.locate (Path.ofText "d") = .ok ["work", "d"] ∧
      trapTree.find? ["work", "d"] = some .directory ∧
      (∀ file content,
        IsInterfaceFile trapTree ["work", "d"] (Path.ofText "d") file content →
          HoldsDescription file content ∧ Fits file) ∧
      (Catalog.load trapTree [Path.ofText "d"]).outcome =
        .error (.file ⟨.isDirectory, Path.ofText "d/x.msg"⟩) := by
  refine ⟨by decide +kernel, by decide +kernel, by decide +kernel, ?_, ?_⟩
  · rintro file content ⟨parts, rfl, found, _⟩
    have entries : trapTree.entries =
        ([(["work"], .directory), (["work", "d"], .directory),
          (["work", "d", "T.msg"], .file (Text.utf8 "bool ok\n")),
          (["work", "d", "x.msg"], .directory)] : List (Place × FileTree.Entry)) := by
      decide +kernel
    have member := Tree.mem_entries_of_find? (by simp) found
    rw [entries] at member
    obtain ⟨rfl, rfl⟩ : parts = ["T.msg"] ∧ content = Text.utf8 "bool ok\n" := by
      simpa using member
    exact ⟨⟨"bool ok\n", by decide +kernel, by decide +kernel⟩, by unfold Fits; decide +kernel⟩
  · have fails : (Catalog.load trapTree [Path.ofText "d"]).outcome.map Catalog.keys =
        .error (.file ⟨.isDirectory, Path.ofText "d/x.msg"⟩) := by
      decide +kernel
    cases outcome : (Catalog.load trapTree [Path.ofText "d"]).outcome with
    | ok catalog => rw [outcome] at fails; cases fails
    | error failure => rw [outcome] at fails; cases fails; rfl

end Interface
end SkillNode
