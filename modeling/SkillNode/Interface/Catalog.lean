import SkillNode.Interface.Field

/-!
# Interface catalog

A catalog holds the sections of every interface it was given, by package and
type name. Its entries are kept in the order of their keys, one per key; a later
description of a key takes the place of the earlier one. The sections of an
interface and the source they came from stand in one entry: both are set by an
addition at the same time and never apart, so a table of sources beside one of
sections would always have the same keys.

The main statements say what a key looks up after an insertion, and that a
refused description leaves no trace because it yields no catalog at all.
-/

namespace SkillNode
namespace Interface

/-- What an interface is called: its package and its type name. -/
structure Key where
  package : Text
  typeName : Text
  deriving DecidableEq, Repr

namespace Key

/-- The order of keys: by package, then by type name, each by code points. -/
def before (left right : Key) : Bool :=
  left.package < right.package ||
    (left.package = right.package && left.typeName < right.typeName)

/-- The printed form of a key. -/
def text (key : Key) : Text := key.package ++ "/" ++ key.typeName

theorem before_trans
    {first second third : Key}
    (firstBefore : first.before second)
    (secondBefore : second.before third) :
    first.before third := by
  simp only [before, Bool.or_eq_true, Bool.and_eq_true, decide_eq_true_eq] at *
  rcases firstBefore with packageLess | ⟨samePackage, nameLess⟩ <;>
    rcases secondBefore with packageLess' | ⟨samePackage', nameLess'⟩
  · exact .inl (List.lt_trans packageLess packageLess')
  · exact .inl (samePackage' ▸ packageLess)
  · exact .inl (samePackage ▸ packageLess')
  · exact .inr ⟨samePackage.trans samePackage', List.lt_trans nameLess nameLess'⟩

theorem not_before_self (key : Key) : key.before key = false := by
  simp [before]

/-- Of two different keys one stands before the other. -/
theorem before_of_not_before
    {left right : Key}
    (notBefore : left.before right = false)
    (different : left ≠ right) :
    right.before left := by
  obtain ⟨leftPackage, leftName⟩ := left
  obtain ⟨rightPackage, rightName⟩ := right
  simp only [before, Bool.or_eq_false_iff, Bool.and_eq_false_iff, decide_eq_false_iff_not,
    Bool.or_eq_true, Bool.and_eq_true, decide_eq_true_eq, List.not_lt] at *
  obtain ⟨packageLe, nameCase⟩ := notBefore
  by_cases samePackage : leftPackage = rightPackage
  · subst samePackage
    have nameLe := nameCase.resolve_left (by simp)
    refine .inr ⟨rfl, ?_⟩
    rcases List.le_iff_lt_or_eq.mp nameLe with less | same
    · exact less
    · exact absurd (by rw [same]) different
  · rcases List.le_iff_lt_or_eq.mp packageLe with less | same
    · exact .inl less
    · exact absurd same.symm samePackage

end Key

/-- The field sections of an interface. -/
inductive Sections
  | service (request response : List Field)
  | message (fields : List Field)
  deriving DecidableEq, Repr

namespace Sections

/-- The fields of a section; a section that the interface lacks has none. -/
def fields : Sections → SectionKind → List Field
  | .service request _, .request => request
  | .service _ response, .response => response
  | .message fields, .message => fields
  | _, _ => []

/-- The sections that an interface has, by kind. -/
def list : Sections → List (SectionKind × List Field)
  | .service request response => [(.request, request), (.response, response)]
  | .message fields => [(.message, fields)]

end Sections

/-- A catalogued interface and where its description came from. -/
structure Entry where
  key : Key
  sections : Sections
  source : Text
  deriving DecidableEq, Repr

/-- Entries in the order of their keys, one per key. -/
def InOrder (entries : List Entry) : Prop :=
  entries.Pairwise fun left right => left.key.before right.key

/-- Put an entry at its place, instead of the entry with its key if there is one. -/
def insertEntry (new : Entry) : List Entry → List Entry
  | [] => [new]
  | entry :: rest =>
      if new.key = entry.key then
        new :: rest
      else if new.key.before entry.key then
        new :: entry :: rest
      else
        entry :: insertEntry new rest

theorem mem_insertEntry
    {new other : Entry}
    {entries : List Entry}
    (member : other ∈ insertEntry new entries) :
    other = new ∨ other ∈ entries := by
  induction entries with
  | nil => simpa [insertEntry] using member
  | cons entry rest restHypothesis =>
      unfold insertEntry at member
      split at member
      · rcases List.mem_cons.mp member with same | inRest
        · exact .inl same
        · exact .inr (List.mem_cons_of_mem _ inRest)
      · split at member
        · rcases List.mem_cons.mp member with same | inRest
          · exact .inl same
          · exact .inr inRest
        · rcases List.mem_cons.mp member with same | inRest
          · exact .inr (same ▸ List.mem_cons_self ..)
          · exact (restHypothesis inRest).imp id (List.mem_cons_of_mem _)

/-- Insertion keeps the order. -/
theorem InOrder.insertEntry
    {entries : List Entry}
    (ordered : InOrder entries)
    (new : Entry) :
    InOrder (insertEntry new entries) := by
  induction entries with
  | nil => simp [InOrder, Interface.insertEntry]
  | cons entry rest restHypothesis =>
      obtain ⟨entryFirst, restOrdered⟩ := List.pairwise_cons.mp ordered
      unfold Interface.insertEntry
      split
      · next sameKey =>
          exact List.pairwise_cons.mpr
            ⟨fun other member => by rw [sameKey]; exact entryFirst other member, restOrdered⟩
      · next differentKey =>
          split
          · next newFirst =>
              refine List.pairwise_cons.mpr ⟨fun other member => ?_, ordered⟩
              rcases List.mem_cons.mp member with rfl | inRest
              · exact newFirst
              · exact Key.before_trans newFirst (entryFirst other inRest)
          · next notFirst =>
              refine List.pairwise_cons.mpr
                ⟨fun other member => ?_, restHypothesis restOrdered⟩
              rcases mem_insertEntry member with rfl | inRest
              · exact Key.before_of_not_before (by simpa using notFirst) differentKey
              · exact entryFirst other inRest

/-- The interfaces known so far, in the order of their keys. -/
structure Catalog where
  entries : List Entry
  inOrder : InOrder entries := by simp [InOrder]

namespace Catalog

/-- The catalog without interfaces. -/
def empty : Catalog where
  entries := []

/-- The entry of a key. -/
def find? (catalog : Catalog) (key : Key) : Option Entry :=
  catalog.entries.find? (·.key = key)

/-- Whether a catalog has an entry for a key. -/
def contains (catalog : Catalog) (key : Key) : Bool := (catalog.find? key).isSome

/-- The keys of a catalog in order. -/
def keys (catalog : Catalog) : List Key := catalog.entries.map Entry.key

/-- Number of interfaces. -/
def size (catalog : Catalog) : Nat := catalog.entries.length

/-- The fields of a section of an interface, none if either is unknown. -/
def fields (catalog : Catalog) (key : Key) (kind : SectionKind) : List Field :=
  match catalog.find? key with
  | some entry => entry.sections.fields kind
  | none => []

/-- The type of the first field with a name, if it is declared with a known type. -/
def fieldType? (catalog : Catalog) (key : Key) (name : Text) (kind : SectionKind) :
    Option FieldType :=
  match (catalog.fields key kind).find? (·.name = name) with
  | some field => field.fieldType?
  | none => none

/-- Put an entry into a catalog. -/
def insert (catalog : Catalog) (entry : Entry) : Catalog where
  entries := insertEntry entry catalog.entries
  inOrder := catalog.inOrder.insertEntry entry

/-! ## Descriptions -/

end Catalog

/-- The text that describes an interface, and what it is to be called. -/
structure Description where
  key : Key
  text : Text
  isService : Bool
  source : Text
  deriving DecidableEq, Repr

namespace Description

/-- The source that errors and records name: the key where none is given. -/
def sourceName (description : Description) : Text :=
  if description.source.isEmpty then description.key.text else description.source

/-- Whether a line separates the sections of a service. -/
def isSeparator (line : Text) : Bool := lineContent line = separatorText

/-- The sections of a service, whose lines hold exactly one separator. The lines before it
and those after it are joined again, and each part is read as a text of its own. -/
def serviceSections (source : Text) (lines : List Text) : Except Error Sections :=
  match lines.countP isSeparator with
  | 1 =>
      let request := lines.takeWhile (! isSeparator ·)
      let response := lines.drop (request.length + 1)
      match readFields (Text.join ['\n'] request) source 1 with
      | .error error => .error error
      | .ok requestFields =>
          match readFields (Text.join ['\n'] response) source (request.length + 2) with
          | .error error => .error error
          | .ok responseFields => .ok (.service requestFields responseFields)
  | found => .error ⟨source, none, .separatorCount found⟩

/-- The sections that a description declares. -/
def sections (description : Description) : Except Error Sections :=
  if description.isService then
    serviceSections description.sourceName (Text.lines description.text)
  else
    (readFields description.text description.sourceName 1).map Sections.message

end Description

namespace Catalog

/-- The records that adding an entry makes: a warning when it takes the place of
another, and a note that it is there. -/
def additionLog (catalog : Catalog) (entry : Entry) : Log :=
  let redefinition : Log :=
    match catalog.find? entry.key with
    | some earlier =>
        [.warning ("Interface " ++ entry.key.text ++ " redefined by " ++ entry.source ++
          " (was " ++ earlier.source ++ ")")]
    | none => []
  redefinition ++ [.debug ("Loaded interface " ++ entry.key.text ++ " from " ++ entry.source)]

/-- Add a described interface, with the records made on the way. -/
def add (catalog : Catalog) (description : Description) : Except Error (Catalog × Log) :=
  match description.sections with
  | .error error => .error error
  | .ok sections =>
      let entry : Entry := ⟨description.key, sections, description.sourceName⟩
      .ok (catalog.insert entry, catalog.additionLog entry)

/-! ## Laws of look-up -/

theorem find?_insertEntry
    (new : Entry)
    (entries : List Entry)
    (key : Key) :
    (insertEntry new entries).find? (·.key = key) =
      if new.key = key then some new else entries.find? (·.key = key) := by
  induction entries with
  | nil => by_cases same : new.key = key <;> simp [insertEntry, same]
  | cons entry rest restHypothesis =>
      unfold insertEntry
      by_cases sameEntry : new.key = entry.key
      · by_cases same : new.key = key <;> simp [← sameEntry, same]
      · by_cases newFirst : new.key.before entry.key
        · rw [if_neg sameEntry, if_pos newFirst]
          by_cases same : new.key = key <;> simp [same]
        · simp only [sameEntry, newFirst, if_false, Bool.false_eq_true]
          by_cases entrySame : entry.key = key
          · have differs : new.key ≠ key := fun same => sameEntry (same.trans entrySame.symm)
            simp [entrySame, differs]
          · simp only [List.find?_cons, entrySame, decide_false, restHypothesis]

/-- After an insertion the entry's key finds the entry and other keys find what
they found before. -/
theorem find?_insert
    (catalog : Catalog)
    (entry : Entry)
    (key : Key) :
    (catalog.insert entry).find? key =
      if entry.key = key then some entry else catalog.find? key :=
  find?_insertEntry entry catalog.entries key

end Catalog

end Interface
end SkillNode
