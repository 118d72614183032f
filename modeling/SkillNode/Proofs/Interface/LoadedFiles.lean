import SkillNode.Proofs.Interface.FolderLoading
import Mathlib.Data.List.Lex

/-!
# What paths are loaded as

The paths that a catalog is loaded from stand for files: a file for itself, and a directory for
the interface files below it in the order of their components. Each file makes one entry, of
whatever catalog it is added to, and takes the place of the entry that has its key. So in the
end a key has the entry of the last file that is called by it.

What is loaded from a path has no part in what is loaded from another, and a catalog of two lists
of paths is that of the first, overridden by that of the second.
-/

namespace SkillNode
namespace Interface

open FileTree (Path Place Tree)

/-! ## Entries of files -/

/-- What an interface file is called by. -/
def fileKey (file : Path) : Key := ⟨packageOf file, file.stem⟩

/-- The entry that the description in a file makes. -/
def IsEntryOf (tree : Tree) (file : Path) (entry : Entry) : Prop :=
  ∃ content text, tree.read file = .ok content ∧ Text.ofUtf8 content = .ok text ∧
    Description.entry? (fileDescription file text) = some entry

theorem IsEntryOf.key_eq
    {tree : Tree}
    {file : Path}
    {entry : Entry}
    (isEntry : IsEntryOf tree file entry) :
    entry.key = fileKey file := by
  obtain ⟨_, _, _, _, makes⟩ := isEntry
  exact (Description.entry?_eq_some_iff.mp makes).2.1

/-- The entry that a file makes in every catalog, or what keeps it from making one. -/
def fileEntry (tree : Tree) (file : Path) : Except Failure Entry :=
  match describe tree file [] with
  | .error failure => .error failure
  | .ok description =>
      match description.sections with
      | .error error => .error (.interface error)
      | .ok sections => .ok ⟨description.key, sections, description.sourceName⟩

theorem fileEntry_eq_ok_iff {tree : Tree} {file : Path} {entry : Entry} :
    fileEntry tree file = .ok entry ↔ isInterfacePath file ∧ IsEntryOf tree file entry := by
  have ofDescription : ∀ description : Description,
      (match description.sections with
        | .error error => (.error (.interface error) : Except Failure Entry)
        | .ok sections => .ok ⟨description.key, sections, description.sourceName⟩) = .ok entry ↔
      description.entry? = some entry := by
    intro description
    unfold Description.entry?
    cases description.sections <;> simp
  unfold fileEntry IsEntryOf
  cases describes : describe tree file [] with
  | error failure =>
      simp only [reduceCtorEq, false_iff, not_and]
      rintro isInterface ⟨content, text, reads, decodes, _⟩
      rw [describe_eq_ok_iff.mpr ⟨isInterface, content, text, reads, decodes, rfl⟩] at describes
      cases describes
  | ok description =>
      obtain ⟨isInterface, content, text, reads, decodes, rfl⟩ := describe_eq_ok_iff.mp describes
      rw [and_iff_right isInterface]
      refine (ofDescription _).trans ⟨fun makes => ⟨content, text, reads, decodes, makes⟩, ?_⟩
      rintro ⟨_, _, readsToo, decodesToo, makes⟩
      obtain rfl := Except.ok.inj (reads.symm.trans readsToo)
      obtain rfl := Except.ok.inj (decodes.symm.trans decodesToo)
      exact makes

/-! ## Outcomes of additions -/

/-- The files that are added for a path, or what keeps them from being listed. -/
def filesAt (tree : Tree) (path : Path) : Except Failure (List Path) :=
  match tree.entryAt path with
  | .ok .directory =>
      match filesBelow tree path with
      | .error error => .error (.file error)
      | .ok files => .ok files
  | .ok (.file _) => .ok [path]
  | .error .nameTooLong => .error (.file ⟨.nameTooLong, path⟩)
  | .error _ => .error (.interface ⟨path.text, none, .pathNotFound⟩)

/-- The entries that are made for a path in every catalog. -/
def pathEntries (tree : Tree) (path : Path) : Except Failure (List Entry) :=
  (filesAt tree path).bind fun files => files.mapM (fileEntry tree)

/-- The entries that are made for paths in every catalog. -/
def entriesOf (tree : Tree) (paths : List Path) : Except Failure (List Entry) :=
  (paths.mapM (pathEntries tree)).map List.flatten

theorem entriesOf_cons (tree : Tree) (path : Path) (paths : List Path) :
    entriesOf tree (path :: paths) =
      (pathEntries tree path).bind fun entries =>
        (entriesOf tree paths).map (entries ++ ·) := by
  rw [entriesOf, entriesOf, mapM_cons_eq]
  cases pathEntries tree path with
  | error failure => rfl
  | ok entries => cases paths.mapM (pathEntries tree) <;> rfl

theorem entriesOf_append (tree : Tree) (first second : List Path) :
    entriesOf tree (first ++ second) =
      (entriesOf tree first).bind fun entries =>
        (entriesOf tree second).map (entries ++ ·) := by
  induction first with
  | nil =>
      rw [List.nil_append]
      cases entriesOf tree second <;> rfl
  | cons path paths pathsHypothesis =>
      rw [List.cons_append, entriesOf_cons, entriesOf_cons, pathsHypothesis]
      cases pathEntries tree path with
      | error failure => rfl
      | ok entries =>
          cases entriesOf tree paths with
          | error failure => rfl
          | ok others =>
              cases entriesOf tree second with
              | error failure => rfl
              | ok more => exact congrArg Except.ok (List.append_assoc ..).symm

namespace Catalog

variable (tree : Tree) (catalog : Catalog)

theorem outcome_addFile (file : Path) :
    (catalog.addFile tree file []).outcome = (fileEntry tree file).map catalog.insert := by
  unfold addFile fileEntry
  cases describe tree file [] with
  | error failure => rfl
  | ok description =>
      dsimp only [addDescription, add]
      cases description.sections <;> rfl

theorem outcome_addFiles (files : List Path) :
    (catalog.addFiles tree files).outcome =
      (files.mapM (fileEntry tree)).map (·.foldl insert catalog) := by
  induction files generalizing catalog with
  | nil => rfl
  | cons file files filesHypothesis =>
      rw [addFiles, Run.outcome_bind, outcome_addFile, mapM_cons_eq]
      cases fileEntry tree file with
      | error failure => rfl
      | ok entry =>
          refine (filesHypothesis (catalog.insert entry)).trans ?_
          dsimp only
          cases files.mapM (fileEntry tree) <;> rfl

theorem outcome_addPath (path : Path) :
    (catalog.addPath tree path).outcome =
      (pathEntries tree path).map (·.foldl insert catalog) := by
  unfold addPath pathEntries filesAt
  cases tree.entryAt path with
  | error fault => cases fault <;> rfl
  | ok entry =>
      cases entry with
      | file content =>
          dsimp only [Except.bind]
          rw [outcome_addFile, mapM_cons_eq]
          cases fileEntry tree path <;> rfl
      | directory =>
          dsimp only
          cases filesBelow tree path with
          | error error => rfl
          | ok files =>
              cases files with
              | nil => rfl
              | cons file files => exact outcome_addFiles tree catalog (file :: files)

theorem outcome_addPaths (paths : List Path) :
    (catalog.addPaths tree paths).outcome =
      (entriesOf tree paths).map (·.foldl insert catalog) := by
  induction paths generalizing catalog with
  | nil => rfl
  | cons path paths pathsHypothesis =>
      rw [addPaths, Run.outcome_bind, outcome_addPath, entriesOf_cons]
      cases pathEntries tree path with
      | error failure => rfl
      | ok entries =>
          refine (pathsHypothesis (entries.foldl insert catalog)).trans ?_
          cases entriesOf tree paths with
          | error failure => rfl
          | ok others => exact congrArg Except.ok (List.foldl_append ..).symm

/-- What is loaded is made of the entries of the paths. -/
theorem outcome_load (paths : List Path) :
    (load tree paths).outcome = (entriesOf tree paths).map ofEntries :=
  outcome_addPaths tree empty paths

/-- In a catalog of two lists of entries those of the second override those of the first. -/
theorem find?_ofEntries_append (first second : List Entry) (key : Key) :
    (ofEntries (first ++ second)).find? key =
      ((ofEntries second).find? key).or ((ofEntries first).find? key) := by
  rw [find?_ofEntries, find?_ofEntries, find?_ofEntries, List.reverse_append, List.find?_append]

theorem ofEntries_append_self (entries : List Entry) :
    ofEntries (entries ++ entries) = ofEntries entries :=
  eq_of_find?_eq fun key => by rw [find?_ofEntries_append, Option.or_self]

end Catalog

/-! ## Files that paths stand for -/

/-- A file stands for itself, and a directory for the interface files at any depth below it,
sorted by the components of their paths. -/
inductive StandsFor (tree : Tree) (path : Path) : List Path → Prop
  | file {content : Bytes} : tree.entryAt path = .ok (.file content) → StandsFor tree path [path]
  | folder {place : Place} {files : List Path} :
      tree.locate path = .ok place → tree.find? place = some .directory →
        (files.Pairwise fun earlier later => earlier.parts < later.parts) →
          (∀ file, file ∈ files ↔ ∃ content, IsInterfaceFile tree place path file content) →
            StandsFor tree path files

/-- The files that paths stand for, path by path. -/
def StandFor (tree : Tree) (paths files : List Path) : Prop :=
  ∃ lists, List.Forall₂ (StandsFor tree) paths lists ∧ lists.flatten = files

section Listing

variable {tree : Tree} {path : Path} {files others : List Path}

theorem entryAt_eq_ok_iff {entry : FileTree.Entry} :
    tree.entryAt path = .ok entry ↔
      ∃ place, tree.locate path = .ok place ∧ tree.find? place = some entry := by
  unfold Tree.entryAt
  cases tree.locate path with
  | error fault => simp
  | ok place =>
      dsimp only
      cases found : tree.find? place <;> simp [found]

/-- A path stands for one list of files. -/
theorem StandsFor.unique
    (stands : StandsFor tree path files)
    (standsToo : StandsFor tree path others) :
    files = others := by
  cases stands with
  | file isFile =>
      cases standsToo with
      | file _ => rfl
      | folder leads isFolder _ _ =>
          rw [entryAt_eq_ok_iff.mpr ⟨_, leads, isFolder⟩] at isFile
          cases isFile
  | folder leads isFolder sorted members =>
      cases standsToo with
      | file isFile =>
          rw [entryAt_eq_ok_iff.mpr ⟨_, leads, isFolder⟩] at isFile
          cases isFile
      | folder leadsToo _ sortedToo membersToo =>
          obtain rfl := Except.ok.inj (leads.symm.trans leadsToo)
          have apart : ∀ list : List Path,
              (list.Pairwise fun earlier later => earlier.parts < later.parts) → list.Nodup :=
            fun list increasing => increasing.imp fun isBefore same => by
              rw [same] at isBefore
              exact List.lt_irrefl _ isBefore
          refine ((List.perm_ext_iff_of_nodup (apart _ sorted) (apart _ sortedToo)).mpr
            fun file => (members file).trans (membersToo file).symm).eq_of_pairwise
              (fun first second _ _ isBefore isAfter => ?_) sorted sortedToo
          exact absurd (List.lt_trans isBefore isAfter) (List.lt_irrefl _)

theorem StandFor.unique
    {paths : List Path}
    (stand : StandFor tree paths files)
    (standToo : StandFor tree paths others) :
    files = others := by
  obtain ⟨lists, stands, rfl⟩ := stand
  obtain ⟨otherLists, standsToo, rfl⟩ := standToo
  refine congrArg List.flatten ?_
  induction stands generalizing otherLists with
  | nil =>
      cases standsToo
      rfl
  | cons first rest restHypothesis =>
      cases standsToo with
      | cons firstToo restToo => rw [first.unique firstToo, restHypothesis _ restToo]

/-- What lies below a directory is listed in the order of components. -/
theorem sorted_filesBelow
    {place : Place}
    (leads : tree.locate path = .ok place)
    (lists : filesBelow tree path = .ok files) :
    files.Pairwise fun earlier later => earlier.parts < later.parts := by
  obtain ⟨_, rfl⟩ := (filesBelow_eq_ok_iff leads).mp lists
  refine List.Pairwise.filter _ (List.pairwise_map.mpr ?_)
  refine (Sorted.pairwise_ofList _).imp fun {earlier later} isBefore => ?_
  exact List.Lex.append_left _ isBefore path.parts

/-- A directory below another makes no entry. -/
theorem fileEntry_folderBelow
    {place : Place}
    {inner : Path}
    (sound : tree.IsSound)
    (leads : tree.locate path = .ok place)
    (isBelow : IsFolderBelow tree place path inner)
    (entry : Entry) :
    fileEntry tree inner ≠ .ok entry := by
  intro makes
  obtain ⟨isInterface, content, text, reads, decodes, _⟩ := fileEntry_eq_ok_iff.mp makes
  exact describe_folderBelow sound leads isBelow _
    (describe_eq_ok_iff.mpr ⟨isInterface, content, text, reads, decodes, rfl⟩)

/-- The files that are added for a path, if all of them make entries, are those that it stands
for. -/
theorem standsFor_of_filesAt
    {entries : List Entry}
    (sound : tree.IsSound)
    (lists : filesAt tree path = .ok files)
    (mapped : files.mapM (fileEntry tree) = .ok entries) :
    StandsFor tree path files := by
  unfold filesAt at lists
  split at lists
  · next isDirectory =>
      obtain ⟨place, leads, isFolder⟩ := entryAt_eq_ok_iff.mp isDirectory
      split at lists
      · cases lists
      · next listed isListing =>
          cases lists
          refine .folder leads isFolder (sorted_filesBelow leads isListing) fun file => ?_
          rw [mem_filesBelow_iff leads isFolder isListing]
          refine or_iff_left fun ⟨isBelow, isInterface⟩ => ?_
          obtain ⟨entry, _, makes⟩ := exists_of_mapM_ok mapped
            ((mem_filesBelow_iff leads isFolder isListing).mpr (.inr ⟨isBelow, isInterface⟩))
          exact fileEntry_folderBelow sound leads isBelow entry makes
  · next isFile =>
      cases lists
      exact .file isFile
  · cases lists
  · cases lists

/-- Entries of paths are made by the files that these stand for, one by each in order. -/
theorem exists_standFor_of_entriesOf
    {paths : List Path}
    {entries : List Entry}
    (sound : tree.IsSound)
    (made : entriesOf tree paths = .ok entries) :
    ∃ files, StandFor tree paths files ∧
      List.Forall₂ (fun file entry => fileEntry tree file = .ok entry) files entries := by
  induction paths generalizing entries with
  | nil =>
      obtain rfl : [] = entries := Except.ok.inj made
      exact ⟨[], ⟨[], .nil, rfl⟩, .nil⟩
  | cons path paths pathsHypothesis =>
      rw [entriesOf_cons] at made
      obtain ⟨first, ofFirst, made⟩ := bind_eq_ok_iff.mp made
      obtain ⟨rest, ofRest, rfl⟩ := map_eq_ok_iff.mp made
      obtain ⟨listed, lists, mapped⟩ := bind_eq_ok_iff.mp ofFirst
      obtain ⟨_, ⟨restLists, stand, rfl⟩, restMade⟩ := pathsHypothesis ofRest
      exact ⟨_, ⟨listed :: restLists, .cons (standsFor_of_filesAt sound lists mapped) stand, rfl⟩,
        List.rel_append (mapM_eq_ok_iff.mp mapped) restMade⟩

end Listing

/-! ## The last file for a key -/

section Last

variable {tree : Tree} {files : List Path} {entries : List Entry}

theorem keys_of_made
    (made : List.Forall₂ (fun file entry => fileEntry tree file = .ok entry) files entries) :
    entries.map Entry.key = files.map fileKey := by
  induction made with
  | nil => rfl
  | cons first _ restHypothesis =>
      rw [List.map_cons, List.map_cons, restHypothesis, (fileEntry_eq_ok_iff.mp first).2.key_eq]

/-- A key has the entry of the last file that is called by it. -/
theorem find?_of_lastFile
    {earlier later : List Path}
    {file : Path}
    (made : List.Forall₂ (fun file entry => fileEntry tree file = .ok entry)
      (earlier ++ file :: later) entries)
    (isLast : ∀ other ∈ later, fileKey other ≠ fileKey file) :
    ∃ entry, IsEntryOf tree file entry ∧
      (Catalog.ofEntries entries).find? (fileKey file) = some entry := by
  induction earlier generalizing entries with
  | nil =>
      cases made with
      | cons first rest =>
          obtain ⟨_, isEntry⟩ := fileEntry_eq_ok_iff.mp first
          refine ⟨_, isEntry, ?_⟩
          rw [Catalog.find?_ofEntries, List.reverse_cons, List.find?_append]
          rw [List.find?_eq_none.mpr, Option.none_or, List.find?_singleton, isEntry.key_eq]
          · simp
          · intro entry member sameKey
            have isKey : entry.key ∈ later.map fileKey :=
              keys_of_made rest ▸ List.mem_map_of_mem (List.mem_reverse.mp member)
            obtain ⟨other, isLater, hasKey⟩ := List.mem_map.mp isKey
            exact isLast other isLater (hasKey.trans (of_decide_eq_true sameKey))
  | cons first earlier earlierHypothesis =>
      cases made with
      | cons _ rest =>
          obtain ⟨entry, isEntry, found⟩ := earlierHypothesis rest
          rw [Catalog.find?_ofEntries] at found
          refine ⟨entry, isEntry, ?_⟩
          rw [Catalog.find?_ofEntries, List.reverse_cons, List.find?_append, found, Option.some_or]

end Last

/-- The last file wins, in a fixed order. The paths that a catalog is loaded from stand for one
list of files: its keys are those that the files are called by, and each has the entry of the last
file that is called by it. So a list of paths that comes twice is loaded like the list itself,
and two lists are loaded together just if each of them is, as the catalog of the first in which
the keys of the second are overridden. -/
theorem load_lastFileWins {tree : Tree} (sound : tree.IsSound) :
    (∀ paths catalog, (Catalog.load tree paths).outcome = .ok catalog →
      ∃ files, (∀ others, StandFor tree paths others ↔ others = files) ∧
        (∀ key, key ∈ catalog.keys ↔ ∃ file ∈ files, fileKey file = key) ∧
        ∀ earlier file later, files = earlier ++ file :: later →
          (∀ other ∈ later, fileKey other ≠ fileKey file) →
            ∃ entry, IsEntryOf tree file entry ∧
              catalog.find? (fileKey file) = some entry) ∧
    (∀ paths, (Catalog.load tree (paths ++ paths)).outcome = (Catalog.load tree paths).outcome) ∧
    ∀ first second catalog, (Catalog.load tree (first ++ second)).outcome = .ok catalog ↔
      ∃ left right, (Catalog.load tree first).outcome = .ok left ∧
        (Catalog.load tree second).outcome = .ok right ∧
        ∀ key, catalog.find? key = (right.find? key).or (left.find? key) := by
  refine ⟨fun paths catalog loads => ?_, fun paths => ?_, fun first second catalog => ?_⟩
  · rw [Catalog.outcome_load] at loads
    obtain ⟨entries, made, rfl⟩ := map_eq_ok_iff.mp loads
    obtain ⟨files, stand, madeByFiles⟩ := exists_standFor_of_entriesOf sound made
    refine ⟨files, fun others => ⟨fun standToo => standToo.unique stand, fun same => same ▸ stand⟩,
      fun key => ?_, fun earlier file later whole isLast => ?_⟩
    · rw [Catalog.mem_keys_ofEntries_iff, ← List.mem_map, keys_of_made madeByFiles, List.mem_map]
    · subst whole
      exact find?_of_lastFile madeByFiles isLast
  · rw [Catalog.outcome_load, Catalog.outcome_load, entriesOf_append]
    cases entriesOf tree paths with
    | error failure => rfl
    | ok entries => exact congrArg Except.ok (Catalog.ofEntries_append_self entries)
  · simp only [Catalog.outcome_load, entriesOf_append, map_eq_ok_iff, bind_eq_ok_iff]
    constructor
    · rintro ⟨_, ⟨left, ofFirst, right, ofSecond, rfl⟩, rfl⟩
      exact ⟨_, _, ⟨left, ofFirst, rfl⟩, ⟨right, ofSecond, rfl⟩,
        Catalog.find?_ofEntries_append left right⟩
    · rintro ⟨_, _, ⟨left, ofFirst, rfl⟩, ⟨right, ofSecond, rfl⟩, overridden⟩
      refine ⟨_, ⟨left, ofFirst, right, ofSecond, rfl⟩, Catalog.eq_of_find?_eq fun key => ?_⟩
      rw [Catalog.find?_ofEntries_append, overridden]

/-- A directory with a message and a service of one name, and elsewhere another message that is
called like both. -/
def overlayTree : Tree :=
  (((Tree.empty ["work"]).plant ["d", "T.msg"] (.file (Text.utf8 "bool old\n"))).plant
    ["d", "T.srv"] (.file (Text.utf8 "---\n"))).plant
      ["e", "d", "T.msg"] (.file (Text.utf8 "bool new\n"))

/-- Of the directory the service is kept, though it is listed twice, and after it the message
from elsewhere. -/
theorem load_lastFileWins_overlay :
    overlayTree.IsSound ∧
      StandFor overlayTree [Path.ofText "d"] [Path.ofText "d/T.msg", Path.ofText "d/T.srv"] ∧
      ∃ left right catalog entry,
        (Catalog.load overlayTree ([Path.ofText "d"] ++ [Path.ofText "d"])).outcome = .ok left ∧
          (Catalog.load overlayTree [Path.ofText "e"]).outcome = .ok right ∧
          (Catalog.load overlayTree ([Path.ofText "d"] ++ [Path.ofText "e"])).outcome =
            .ok catalog ∧
          IsEntryOf overlayTree (Path.ofText "d/T.srv") entry ∧
          left.find? ⟨"d", "T"⟩ = some entry ∧
          (catalog.find? ⟨"d", "T"⟩).map Entry.source = some "e/d/T.msg" := by
  have sound : overlayTree.IsSound := by decide +kernel
  have lists : filesAt overlayTree (Path.ofText "d") =
      .ok [Path.ofText "d/T.msg", Path.ofText "d/T.srv"] := by
    decide +kernel
  have mapped : [Path.ofText "d/T.msg", Path.ofText "d/T.srv"].mapM (fileEntry overlayTree) =
      .ok [⟨⟨"d", "T"⟩, .message [⟨"old", "bool"⟩], "d/T.msg"⟩,
        ⟨⟨"d", "T"⟩, .service [] [], "d/T.srv"⟩] := by
    decide +kernel
  have stand : StandFor overlayTree [Path.ofText "d"]
      [Path.ofText "d/T.msg", Path.ofText "d/T.srv"] :=
    ⟨[_], .cons (standsFor_of_filesAt sound lists mapped) .nil, rfl⟩
  obtain ⟨lastWins, twice, overrides⟩ := load_lastFileWins sound
  have isLoaded : (Catalog.load overlayTree
      ([Path.ofText "d"] ++ [Path.ofText "e"])).outcome.isOk = true := by
    decide +kernel
  obtain ⟨catalog, loads⟩ := exists_ok_of_isOk isLoaded
  obtain ⟨left, right, ofFirst, ofSecond, overridden⟩ := (overrides _ _ catalog).mp loads
  obtain ⟨files, areFiles, _, areLast⟩ := lastWins _ left ofFirst
  obtain rfl := (areFiles _).mp stand
  obtain ⟨entry, isEntry, found⟩ := areLast [Path.ofText "d/T.msg"] (Path.ofText "d/T.srv") [] rfl
    (by simp)
  have source : (Catalog.load overlayTree [Path.ofText "e"]).outcome.toOption.bind (fun catalog =>
      (catalog.find? ⟨"d", "T"⟩).map Entry.source) = some "e/d/T.msg" := by
    decide +kernel
  refine ⟨sound, stand, left, right, catalog, entry, (twice _).trans ofFirst, ofSecond, loads,
    isEntry, found, ?_⟩
  rw [ofSecond] at source
  obtain ⟨later, foundLater, isSource⟩ := Option.map_eq_some_iff.mp source
  rw [overridden, foundLater]
  exact congrArg some isSource

end Interface
end SkillNode
