import SkillNode.Proofs.FileTree.BasePaths
import SkillNode.Proofs.Interface.LoadedFiles
import SkillNode.Proofs.Statechart.References

/-!
# Keys of files and of type texts

A file is called by the directories that it lies in, which are components of a path, and a
declaration names its interface by a text that is cut at its last slash. Neither looks at the
other, and both leave out the folder of a kind of interfaces.

The main statement is that they agree. Wherever the file of an interface lies below whatever
base, it is registered under the key that every spelling of the type is read as, so that what a
declaration refers to is the entry of that file.
-/

namespace SkillNode
namespace Interface

open FileTree (IsBelow IsPlainName Path Tree)

/-! ## Places of files -/

/-- The folders for the interfaces of a package, which are called like the endings of their
files. -/
def interfaceFolders : List Text := ["srv", "msg"]

/-- The components that lead to a file of an interface from around its package: it lies in the
folder of its kind, or in the package itself, if that is not called like such a folder. -/
inductive LiesAt (key : Key) : List Text → Prop
  | inFolder {folder : Text} :
      folder ∈ interfaceFolders →
        LiesAt key [key.package, folder, key.typeName ++ '.' :: folder]
  | inPackage {folder : Text} :
      folder ∈ interfaceFolders → key.package ∉ interfaceFolders →
        LiesAt key [key.package, key.typeName ++ '.' :: folder]

/-- A path of a file of an interface whose package lies below a base. -/
def IsFileOf (key : Key) (base : Text) (path : Path) : Prop :=
  ∃ parts, LiesAt key parts ∧ IsBelow base parts path

/-- The texts that spell the type of an interface: short, or with a folder in between. -/
inductive IsSpelling (key : Key) : Text → Prop
  | short : IsSpelling key (key.package ++ '/' :: key.typeName)
  | long {folder : Text} :
      folder ∈ interfaceFolders →
        IsSpelling key (key.package ++ '/' :: folder ++ '/' :: key.typeName)

/-- The package and the type name of an interface are identifiers. -/
structure Key.IsNamed (key : Key) : Prop where
  package : Text.isIdentifier key.package = true
  typeName : Text.isIdentifier key.typeName = true

section Keys

variable {key : Key} {folder : Text}

theorem isIdentifier_interfaceFolder (isFolder : folder ∈ interfaceFolders) :
    Text.isIdentifier folder = true := by
  have checked : ∀ folder ∈ interfaceFolders, Text.isIdentifier folder = true := by decide
  exact checked folder isFolder

/-- The components of files are plain names. -/
theorem LiesAt.arePlain
    {parts : List Text}
    (lies : LiesAt key parts)
    (isNamed : key.IsNamed) :
    ∀ part ∈ parts, IsPlainName part := by
  have package := IsPlainName.of_isIdentifier isNamed.package
  have file : ∀ folder ∈ interfaceFolders, IsPlainName (key.typeName ++ '.' :: folder) := by
    intro folder isFolder
    refine .of_isIdentifier_append isNamed.typeName (List.not_mem_cons_of_ne_of_not_mem ?_ ?_)
    · decide
    · exact (IsPlainName.of_isIdentifier (isIdentifier_interfaceFolder isFolder)).noSlash
  cases lies with
  | inFolder isFolder =>
      have isPlain := IsPlainName.of_isIdentifier (isIdentifier_interfaceFolder isFolder)
      simpa using ⟨package, isPlain, file _ isFolder⟩
  | inPackage isFolder _ => simpa using ⟨package, file _ isFolder⟩

/-- The name of a file is cut before the ending. -/
theorem splitName_file (isNamed : key.IsNamed) (isFolder : folder ∈ interfaceFolders) :
    Path.splitName (key.typeName ++ '.' :: folder) = (key.typeName, '.' :: folder) := by
  have isEnding := isIdentifier_interfaceFolder isFolder
  have noDot : '.' ∉ folder := Text.notMem_of_isIdentifier isEnding (by decide)
  rw [Path.splitName, Text.splitLast_append_cons noDot]
  simp [Text.ne_nil_of_isIdentifier isNamed.typeName, Text.ne_nil_of_isIdentifier isEnding]

theorem packageOf_eq (path : Path) :
    packageOf path =
      if path.parent.name ∈ interfaceFolders ∧ path.parent.parent.name ≠ [] then
        path.parent.parent.name
      else
        path.parent.name := by
  simp [packageOf, interfaceFolders]

/-- The package of a file in a folder for interfaces is the one around the folder. -/
theorem packageOf_inFolder
    {path : Path}
    {front : List Text}
    {package name : Text}
    (parts : path.parts = front ++ [package, folder, name])
    (notEmpty : package ≠ [])
    (isFolder : folder ∈ interfaceFolders) :
    packageOf path = package := by
  have around : path.parent.name = folder := by
    simp [Path.name, Path.parent, parts]
  have further : path.parent.parent.name = package := by
    simp [Path.name, Path.parent, parts]
  rw [packageOf_eq, around, further, if_pos ⟨isFolder, notEmpty⟩]

/-- The package of another file is the directory that it lies in. -/
theorem packageOf_inPackage
    {path : Path}
    {front : List Text}
    {package name : Text}
    (parts : path.parts = front ++ [package, name])
    (notFolder : package ∉ interfaceFolders) :
    packageOf path = package := by
  have around : path.parent.name = package := by
    simp [Path.name, Path.parent, parts]
  rw [packageOf_eq, around, if_neg fun isFolder => notFolder isFolder.1]

/-- A file of an interface is called by the key of the interface, whatever the base. -/
theorem IsFileOf.fileKey_eq
    {base : Text}
    {path : Path}
    (isFile : IsFileOf key base path)
    (isNamed : key.IsNamed) :
    fileKey path = key ∧ isInterfacePath path = true := by
  obtain ⟨parts, lies, isBelow⟩ := isFile
  have arePlain := lies.arePlain isNamed
  have ofName : ∀ folder ∈ interfaceFolders, path.name = key.typeName ++ '.' :: folder →
      path.stem = key.typeName ∧ isInterfacePath path = true := by
    intro folder isFolder isName
    rw [isInterfacePath, Path.stem, Path.suffix, isName, splitName_file isNamed isFolder]
    have checked : ∀ folder ∈ interfaceFolders,
        (decide ('.' :: folder = serviceSuffix) || decide ('.' :: folder = messageSuffix)) =
          true := by
      decide
    exact ⟨rfl, checked folder isFolder⟩
  cases lies with
  | inFolder isFolder =>
      have components := isBelow.parts_eq arePlain
      obtain ⟨stem, isInterface⟩ := ofName _ isFolder (by simp [Path.name, components])
      refine ⟨?_, isInterface⟩
      rw [fileKey, stem, packageOf_inFolder components
        (Text.ne_nil_of_isIdentifier isNamed.package) isFolder]
  | inPackage isFolder notFolder =>
      have components := isBelow.parts_eq arePlain
      obtain ⟨stem, isInterface⟩ := ofName _ isFolder (by simp [Path.name, components])
      refine ⟨?_, isInterface⟩
      rw [fileKey, stem, packageOf_inPackage components notFolder]

/-- Adding a file of an interface puts its entry under the key of the interface. -/
theorem outcome_addFile_eq_ok_iff
    {base : Text}
    {path : Path}
    (isFile : IsFileOf key base path)
    (isNamed : key.IsNamed)
    (tree : Tree)
    (catalog extended : Catalog) :
    (catalog.addFile tree path []).outcome = .ok extended ↔
      ∃ entry, IsEntryOf tree path entry ∧ entry.key = key ∧ catalog.insert entry = extended := by
  obtain ⟨isKey, isInterface⟩ := isFile.fileKey_eq isNamed
  rw [Catalog.outcome_addFile, map_eq_ok_iff]
  refine exists_congr fun entry => ?_
  rw [fileEntry_eq_ok_iff, and_iff_right isInterface]
  exact and_congr_right fun isEntry => (and_iff_right (isEntry.key_eq.trans isKey)).symm

end Keys

/-! ## Types of declarations -/

/-- What stands before the last slash is the package, less a folder for interfaces at its end. -/
theorem splitInterfaceId_append
    {typeName : Text}
    (noSlash : '/' ∉ typeName)
    (front : Text) :
    Naming.splitInterfaceId (front ++ '/' :: typeName) =
      (((Text.beforeSuffix? "/srv" front).or (Text.beforeSuffix? "/msg" front)).getD front,
        typeName) := by
  rw [Naming.splitInterfaceId, Text.splitLast_append_cons noSlash]
  dsimp only
  cases Text.beforeSuffix? "/srv" front <;> cases Text.beforeSuffix? "/msg" front <;> rfl

/-- Every spelling of a type is read as its key. -/
theorem IsSpelling.splitInterfaceId_eq
    {key : Key}
    {text : Text}
    (spells : IsSpelling key text)
    (isNamed : key.IsNamed) :
    Naming.splitInterfaceId text = (key.package, key.typeName) := by
  have noSlash : '/' ∉ key.typeName := (IsPlainName.of_isIdentifier isNamed.typeName).noSlash
  have packageFree : '/' ∉ key.package := (IsPlainName.of_isIdentifier isNamed.package).noSlash
  cases spells with
  | short =>
      have noFolder : ∀ ending, '/' ∈ ending → Text.beforeSuffix? ending key.package = none := by
        refine fun ending hasSlash => Option.eq_none_iff_forall_ne_some.mpr fun start found => ?_
        rw [Text.beforeSuffix?_eq_some_iff.mp found] at packageFree
        exact packageFree (List.mem_append_right _ hasSlash)
      rw [splitInterfaceId_append noSlash, noFolder _ (by decide), noFolder _ (by decide)]
      rfl
  | @long folder isFolder =>
      have isCut : Text.beforeSuffix? ('/' :: folder) (key.package ++ '/' :: folder) =
          some key.package :=
        Text.beforeSuffix?_eq_some_iff.mpr rfl
      rw [splitInterfaceId_append noSlash]
      rcases List.mem_cons.mp isFolder with rfl | isMessage
      · exact congrArg (fun found : Option Text => ((found.or _).getD _, key.typeName)) isCut
      · obtain rfl := List.mem_singleton.mp isMessage
        have noService : Text.beforeSuffix? "/srv" (key.package ++ '/' :: "msg") = none := by
          refine Option.eq_none_iff_forall_ne_some.mpr fun start found => ?_
          have same := Text.beforeSuffix?_eq_some_iff.mp found
          exact absurd (List.append_inj_right' same rfl) (by decide)
        rw [noService]
        exact congrArg (fun found : Option Text => (found.getD _, key.typeName)) isCut

section Declared

open Markup (Document Tag)
open Statechart (Endpoint IsReading RawModel declarationsIn modelOf valueOf)

/-- The endpoint of a declaration has the key that the text of its type is read as. -/
theorem exists_endpoint_splitInterfaceId
    (source : Text)
    {document : Document}
    {kind : Kind}
    {tag : Tag}
    (isDeclaration : (kind, tag) ∈ declarationsIn document.children) :
    ∃ endpoint ∈ (modelOf source document).endpoints, endpoint.IsDeclaredBy kind tag ∧
      endpoint.key = ⟨(Naming.splitInterfaceId (valueOf tag "type")).1,
        (Naming.splitInterfaceId (valueOf tag "type")).2⟩ := by
  obtain ⟨nodeName, endpoints⟩ := Statechart.endpoints_modelOf source document
  rw [endpoints, Statechart.declarationItems_eq, List.map_map]
  refine ⟨_, List.mem_map_of_mem isDeclaration, ?_⟩
  dsimp only [Function.comp_apply, Endpoint.heed]
  split
  · exact ⟨⟨rfl, rfl, rfl⟩, rfl⟩
  · exact ⟨⟨rfl, rfl, rfl⟩, rfl⟩

/-- Where a file lies and how a type is spelled give the same key. For every base, a file of an
interface is registered under the key of the interface, and every spelling of the type is read as
this key. So every declaration with such a type, in every document that is accepted, has an
endpoint whose key finds the entry of that file, whatever else the catalog holds. -/
theorem fileKey_spelling {key : Key} (isNamed : key.IsNamed) :
    (∀ base path, IsFileOf key base path →
      fileKey path = key ∧
        ∀ (tree : Tree) (catalog extended : Catalog),
          (catalog.addFile tree path []).outcome = .ok extended ↔
            ∃ entry, IsEntryOf tree path entry ∧ entry.key = key ∧
              catalog.insert entry = extended) ∧
    (∀ text, IsSpelling key text →
      Naming.splitInterfaceId text = (key.package, key.typeName)) ∧
    ∀ (base : Text) (path : Path) (tree : Tree) (catalog extended : Catalog) (source : Text)
      (document : Document) (run : Run RawModel) (model : RawModel) (kind : Kind) (tag : Tag),
      IsFileOf key base path → (catalog.addFile tree path []).outcome = .ok extended →
      IsReading source document run → run.outcome = .ok model →
      (kind, tag) ∈ declarationsIn document.children → IsSpelling key (valueOf tag "type") →
        ∃ endpoint ∈ model.endpoints, endpoint.IsDeclaredBy kind tag ∧
          ∃ entry, IsEntryOf tree path entry ∧ extended.find? endpoint.key = some entry ∧
            ∀ part, extended.fields endpoint.key part = entry.sections.fields part := by
  refine ⟨fun base path isFile => ⟨(isFile.fileKey_eq isNamed).1,
    outcome_addFile_eq_ok_iff isFile isNamed⟩,
    fun text spells => spells.splitInterfaceId_eq isNamed, ?_⟩
  intro base path tree catalog extended source document run model kind tag isFile adds reading
    accepts isDeclaration spells
  obtain ⟨entry, isEntry, isKey, rfl⟩ :=
    (outcome_addFile_eq_ok_iff isFile isNamed tree catalog extended).mp adds
  obtain ⟨endpoint, member, declared, hasKey⟩ :=
    exists_endpoint_splitInterfaceId source isDeclaration
  rw [spells.splitInterfaceId_eq isNamed] at hasKey
  have found : (catalog.insert entry).find? endpoint.key = some entry := by
    rw [Catalog.find?_insert, hasKey, isKey, if_pos rfl]
  refine ⟨endpoint, (reading.eq_modelOf accepts).2 ▸ member, declared, entry, isEntry, found,
    fun part => ?_⟩
  rw [Catalog.fields, found]

/-- A service of a package that is called like a folder for interfaces. -/
def foldedTree : Tree :=
  (Tree.empty ["work"]).plant ["a", "b", "srv", "srv", "S.srv"] (.file (Text.utf8 "---\nbool ok\n"))

/-- A skill that uses the service, with the type written in full. -/
def foldedChart : Text :=
  "<scxml name='fold'><ros_service_client service_name='/s' type=' srv/srv/S '/></scxml>"

/-- The client of the skill is of the service in the file, which lies below a base written with
a dot and a doubled slash. -/
theorem fileKey_spelling_folded :
    fileKey (Path.ofText "./a//b/srv/srv/S.srv") = ⟨"srv", "S"⟩ ∧
      Naming.splitInterfaceId "srv/srv/S" = (("srv" : Text), ("S" : Text)) ∧
      ∃ catalog model, (Catalog.empty.addFile foldedTree
          (Path.ofText "./a//b/srv/srv/S.srv") []).outcome = .ok catalog ∧
        (Statechart.ofText "fold.scxml" foldedChart).outcome = .ok model ∧
        ∃ endpoint ∈ model.endpoints, ∃ entry,
          IsEntryOf foldedTree (Path.ofText "./a//b/srv/srv/S.srv") entry ∧
            catalog.find? endpoint.key = some entry := by
  have isNamed : Key.IsNamed ⟨"srv", "S"⟩ := ⟨by decide, by decide⟩
  have isFolder : ("srv" : Text) ∈ interfaceFolders := by decide
  have isFile : IsFileOf ⟨"srv", "S"⟩ "./a//b" (Path.ofText "./a//b/srv/srv/S.srv") :=
    ⟨_, .inFolder isFolder, .written⟩
  have spells : IsSpelling ⟨"srv", "S"⟩ "srv/srv/S" := .long isFolder
  have added : (Catalog.empty.addFile foldedTree
      (Path.ofText "./a//b/srv/srv/S.srv") []).outcome.isOk = true := by
    decide +kernel
  have isAccepted : (Statechart.ofText "fold.scxml" foldedChart).outcome.isOk = true := by
    decide +kernel
  obtain ⟨catalog, adds⟩ := exists_ok_of_isOk added
  obtain ⟨model, accepts⟩ := exists_ok_of_isOk isAccepted
  have types : (Document.read (Text.utf8 foldedChart)).toOption.map (fun document =>
      (declarationsIn document.children).map fun declaration => valueOf declaration.2 "type") =
        some [("srv/srv/S" : Text)] := by
    decide +kernel
  obtain ⟨document, isRead, isType⟩ := Option.map_eq_some_iff.mp types
  obtain ⟨⟨kind, tag⟩, isOnly, isTyped⟩ := List.map_eq_singleton_iff.mp isType
  have isText : valueOf tag "type" = "srv/srv/S" := isTyped
  obtain ⟨ofFiles, ofTexts, agree⟩ := fileKey_spelling isNamed
  obtain ⟨endpoint, member, _, entry, isEntry, found, _⟩ :=
    agree "./a//b" _ foldedTree Catalog.empty catalog "fold.scxml" document _ model kind tag isFile
      adds (.ofText (eq_ok_of_toOption isRead)) accepts (isOnly ▸ List.mem_singleton.mpr rfl)
      (isText ▸ spells)
  exact ⟨(ofFiles _ _ isFile).1, ofTexts _ spells, catalog, model, adds, accepts, endpoint, member,
    entry, isEntry, found⟩

end Declared

end Interface

end SkillNode
