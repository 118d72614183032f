import SkillNode.Proofs.Statechart.PartialModels

/-!
# Remembered models

A reader that reads one text after the other remembers the source of the last document and the
model that was started last. A text that is no document changes nothing of it, and a document of
a skill starts a model of its own.

A document of another kind changes the source alone. The main statement says that a reader keeps
its documents apart exactly if none of this kind comes after a document of a skill.
-/

namespace SkillNode
namespace Statechart

open FileTree (Path)
open Markup (Document)

/-- The name of the root element of a text, if it is a document. -/
def rootName? (text : Text) : Option Text :=
  (Document.read (Text.utf8 text)).toOption.map (·.root.name)

/-- A text is no document, or that of a skill. -/
def IsSkillOrNone (text : Text) : Prop := ∀ name, rootName? text = some name → name = rootTag

namespace Memory

/-- The remembered model, if there is one, is of the remembered source. -/
def IsCoherent (memory : Memory) : Prop :=
  ∀ model, memory.model? = some model → model.source = memory.source

/-- What a reader remembers after one more text. -/
def afterText (memory : Memory) (source text : Text) : Memory :=
  memory.after (readText source text memory)

/-- One more text is kept apart from what was read before: the model that is remembered
afterwards is of the remembered source, and after a document that is refused it is a partial
model of that document. -/
def KeepsApart (memory : Memory) (source text : Text) : Prop :=
  (memory.afterText source text).IsCoherent ∧
    ∀ document error, Document.read (Text.utf8 text) = .ok document →
      outcomeOf (readText source text memory) = .error error →
        ∀ model, (memory.afterText source text).model? = some model →
          IsPartialModel source document model

/-- What a reader remembers after some texts, each with its source. -/
def afterTexts (memory : Memory) (texts : List (Text × Text)) : Memory :=
  texts.foldl (fun memory (source, text) => memory.afterText source text) memory

/-- Of texts that are read one after the other, each with its source, all are kept apart. -/
def NeverMixes (memory : Memory) : List (Text × Text) → Prop
  | [] => True
  | (source, text) :: rest =>
      memory.KeepsApart source text ∧ (memory.afterText source text).NeverMixes rest

/-! ## One text -/

variable {memory : Memory} {source text : Text}

theorem rootName?_eq_some_iff {name : Text} :
    rootName? text = some name ↔
      ∃ document, Document.read (Text.utf8 text) = .ok document ∧ document.root.name = name := by
  unfold rootName?
  cases Document.read (Text.utf8 text) <;> simp [Except.toOption]

/-- A text that is no document changes nothing of what is remembered. -/
theorem afterText_eq_of_error
    {fault : Markup.Fault}
    (fails : Document.read (Text.utf8 text) = .error fault) :
    memory.afterText source text = memory := by
  unfold afterText readText
  rw [fails]
  cases fault <;> rfl

theorem readText_of_read
    {document : Document}
    (reads : Document.read (Text.utf8 text) = .ok document) :
    readText source text memory =
      .ok (extractDocument source (Path.ofText source).stem document memory) := by
  rw [readText, reads]

theorem afterText_of_read
    {document : Document}
    (reads : Document.read (Text.utf8 text) = .ok document) :
    memory.afterText source text =
      (extractDocument source (Path.ofText source).stem document memory).memory := by
  rw [afterText, readText_of_read reads]
  rfl

/-- A model is remembered if there was one before, or the text starts one. -/
theorem model?_afterText_eq_none_iff :
    (memory.afterText source text).model? = none ↔
      memory.model? = none ∧ rootName? text ≠ some rootTag := by
  cases reads : Document.read (Text.utf8 text) with
  | error fault =>
      have noRoot : rootName? text ≠ some rootTag := by
        simp [rootName?, reads, Except.toOption]
      rw [afterText_eq_of_error reads]
      exact (and_iff_left noRoot).symm
  | ok document =>
      rw [afterText_of_read reads]
      have sameRoot : rootName? text = some document.root.name :=
        rootName?_eq_some_iff.mpr ⟨document, reads, rfl⟩
      rw [sameRoot]
      by_cases root : document.root.name = rootTag
      · obtain ⟨model, remembered, -⟩ := extractDocument_of_root source memory rfl root
        simp [remembered, root]
      · rw [(extractDocument_of_otherRoot source _ memory root).1]
        exact (and_iff_left fun same => root (Option.some.inj same)).symm

theorem isSkillOrNone_of_error
    {fault : Markup.Fault}
    (fails : Document.read (Text.utf8 text) = .error fault) :
    IsSkillOrNone text := by
  intro name isRoot
  obtain ⟨document, reads, -⟩ := rootName?_eq_some_iff.mp isRoot
  rw [fails] at reads
  cases reads

theorem isSkillOrNone_iff_of_read
    {document : Document}
    (reads : Document.read (Text.utf8 text) = .ok document) :
    IsSkillOrNone text ↔ document.root.name = rootTag := by
  have sameRoot : rootName? text = some document.root.name :=
    rootName?_eq_some_iff.mpr ⟨document, reads, rfl⟩
  simp [IsSkillOrNone, sameRoot]

/-- A document of a skill is kept apart, whatever was read before. -/
theorem keepsApart_of_root
    {document : Document}
    (reads : Document.read (Text.utf8 text) = .ok document)
    (root : document.root.name = rootTag) :
    memory.KeepsApart source text := by
  obtain ⟨model, remembered, sameSource, ofSource, isPartial⟩ :=
    extractDocument_of_root source memory rfl root
  unfold KeepsApart
  rw [afterText_of_read reads, readText_of_read reads]
  constructor
  · intro found isModel
    obtain rfl := Option.some.inj (remembered.symm.trans isModel)
    rw [ofSource, sameSource]
  · intro other error isRead fails found isModel
    obtain rfl := Except.ok.inj (reads.symm.trans isRead)
    obtain rfl := Option.some.inj (remembered.symm.trans isModel)
    exact isPartial error fails

/-- A document of another kind is kept apart only if no model is remembered. -/
theorem keepsApart_iff_of_otherRoot
    {document : Document}
    (reads : Document.read (Text.utf8 text) = .ok document)
    (otherRoot : document.root.name ≠ rootTag) :
    memory.KeepsApart source text ↔ memory.model? = none := by
  obtain ⟨turned, error, fails⟩ := extractDocument_of_otherRoot source _ memory otherRoot
  unfold KeepsApart
  rw [afterText_of_read reads, readText_of_read reads, turned]
  constructor
  · -- A remembered model would have to be one of this document, which is of no skill.
    rintro ⟨-, onlyPartial⟩
    refine Option.eq_none_iff_forall_ne_some.mpr fun model remembered => otherRoot ?_
    exact (onlyPartial document error reads fails model remembered).root
  · intro noModel
    have noneLeft : ∀ model, (memory.turnTo source).model? ≠ some model := by
      intro model remembered
      rw [show (memory.turnTo source).model? = none from noModel] at remembered
      cases remembered
    exact ⟨fun model remembered => absurd remembered (noneLeft model),
      fun _ _ _ _ model remembered => absurd remembered (noneLeft model)⟩

/-- One more text is kept apart if no model is remembered, or if it is not a document of another
kind. -/
theorem keepsApart_iff (coherent : memory.IsCoherent) :
    memory.KeepsApart source text ↔ memory.model? = none ∨ IsSkillOrNone text := by
  cases reads : Document.read (Text.utf8 text) with
  | error fault =>
      refine iff_of_true ⟨?_, fun document error isRead => ?_⟩ (.inr (isSkillOrNone_of_error reads))
      · rwa [afterText_eq_of_error reads]
      · cases reads.symm.trans isRead
  | ok document =>
      rw [isSkillOrNone_iff_of_read reads]
      by_cases root : document.root.name = rootTag
      · exact iff_of_true (keepsApart_of_root reads root) (.inr root)
      · rw [or_iff_left root]
        exact keepsApart_iff_of_otherRoot reads root

/-! ## Whole runs -/

theorem isCoherent_new : ({} : Memory).IsCoherent := fun _ remembered => nomatch remembered

/-- After a run that keeps everything apart the memory is coherent. -/
theorem isCoherent_afterTexts
    (coherent : memory.IsCoherent)
    {texts : List (Text × Text)}
    (never : memory.NeverMixes texts) :
    (memory.afterTexts texts).IsCoherent := by
  induction texts generalizing memory with
  | nil => exact coherent
  | cons first rest restHypothesis => exact restHypothesis never.1.1 never.2

/-- A run from a coherent memory. -/
theorem neverMixes_iff
    (coherent : memory.IsCoherent)
    (texts : List (Text × Text)) :
    memory.NeverMixes texts ↔
      (memory.model? = none ∨ ∀ later ∈ texts, IsSkillOrNone later.2) ∧
        texts.Pairwise fun earlier later =>
          rootName? earlier.2 = some rootTag → IsSkillOrNone later.2 := by
  induction texts generalizing memory with
  | nil => simp [NeverMixes]
  | cons first rest restHypothesis =>
      obtain ⟨source, text⟩ := first
      have splitRest : (∀ later ∈ rest, rootName? text = some rootTag → IsSkillOrNone later.2) ↔
          (rootName? text = some rootTag → ∀ later ∈ rest, IsSkillOrNone later.2) :=
        ⟨fun each isRoot later member => each later member isRoot,
          fun all later member isRoot => all isRoot later member⟩
      have afterFirst : memory.KeepsApart source text →
          ((memory.afterText source text).NeverMixes rest ↔
            (memory.model? = none ∧ rootName? text ≠ some rootTag ∨
                ∀ later ∈ rest, IsSkillOrNone later.2) ∧
              rest.Pairwise fun earlier later =>
                rootName? earlier.2 = some rootTag → IsSkillOrNone later.2) := by
        intro apart
        rw [restHypothesis apart.1, model?_afterText_eq_none_iff]
      rw [NeverMixes, and_congr_right afterFirst, keepsApart_iff coherent, List.forall_mem_cons,
        List.pairwise_cons, splitRest]
      -- A model is remembered for the rest if there was one, or if the first text starts one.
      tauto

end Memory

/-- A new reader keeps the documents that it reads one after the other apart, each of them
accepted, refused or no document at all, exactly if no document of another kind comes after a
document of a skill. -/
theorem neverMixes_iff_rootsAlike (texts : List (Text × Text)) :
    ({} : Memory).NeverMixes texts ↔
      texts.Pairwise fun earlier later =>
        rootName? earlier.2 = some rootTag → IsSkillOrNone later.2 := by
  rw [Memory.neverMixes_iff Memory.isCoherent_new]
  exact and_iff_right (.inl rfl)

/-- A lamp that is accepted, and then a page, which is of another kind. -/
def lampThenPage : List (Text × Text) :=
  [("lamp.scxml", "<scxml name='lamp'/>"), ("page.xml", "<page/>")]

/-- After the page the reader names the page as its source and still has the model of the
lamp. -/
theorem mixes_lampThenPage :
    (({} : Memory).afterTexts lampThenPage).source = ("page.xml" : Text) ∧
      (({} : Memory).afterTexts lampThenPage).model?.map Model.source =
        some ("lamp.scxml" : Text) ∧
        ¬ ({} : Memory).NeverMixes lampThenPage := by
  have sources : (({} : Memory).afterTexts lampThenPage).source = ("page.xml" : Text) := by
    decide +kernel
  have models : (({} : Memory).afterTexts lampThenPage).model?.map Model.source =
      some ("lamp.scxml" : Text) := by
    decide +kernel
  refine ⟨sources, models, fun never => ?_⟩
  have coherent := Memory.isCoherent_afterTexts Memory.isCoherent_new never
  obtain ⟨model, remembered, ofLamp⟩ := Option.map_eq_some_iff.mp models
  have ofPage := coherent model remembered
  rw [ofLamp, sources] at ofPage
  exact absurd ofPage (by decide)

end Statechart
end SkillNode
