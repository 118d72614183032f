import SkillNode.Proofs.FileTree.NormalPaths
import SkillNode.Proofs.Markup.TextEncodings
import SkillNode.Statechart.Loading

/-!
# Files and texts

A behaviour description is read from a file or from a text held in memory. A file that holds the
bytes of a text in UTF-8 is read like the text, whatever is wrong with it and however its path is
spelled, except where reading stops at a byte that the encoding of the document does not admit:
of a text the line is told, and of a file that it cannot be read.

The main statement says so, and which texts never stop at a byte.
-/

namespace SkillNode
namespace Statechart

open FileTree (Path Tree)
open Markup (Converters Document encodingOf)

section Texts

variable (converters : Converters) (source fallbackName text : Text)

/-- The reading of a text stops at a byte that is no character. -/
def BreaksOff : Prop :=
  ∃ line, Document.read (Text.utf8 text) converters = .error (.undecodable line)

variable {converters text}

/-- A text does not break off if the encoding that it is read in admits its bytes. -/
theorem not_breaksOff_of_admits
    (admits : (encodingOf (Text.utf8 text) converters).1.Admits converters text) :
    ¬ BreaksOff converters text := by
  rintro ⟨line, stops⟩
  exact Markup.read_ne_undecodable (Markup.whole_decodedOf_utf8_iff.mpr admits) line stops

variable (converters text)

/-- The bytes of a text are read like the text, unless it breaks off. -/
theorem runOf_readFile_eq_iff :
    runOf (readFile source (Path.ofText source).stem (Text.utf8 text) converters) =
        ofText source text converters ↔
      ¬ BreaksOff converters text := by
  unfold ofText readFile readText BreaksOff
  cases Document.read (Text.utf8 text) converters with
  | ok document => simp
  | error fault =>
      cases fault with
      | malformed line quote => simp
      | undecodable line =>
          -- Only one of the two errors has a line.
          simp [runOf, outcomeOf, unreadableError, documentError]

/-- A file is told to be unreadable where its text breaks off, and of the text the line is
told. -/
theorem outcomes_of_breaksOff
    {line : Nat}
    (stops : Document.read (Text.utf8 text) converters = .error (.undecodable line)) :
    runOf (readFile source fallbackName (Text.utf8 text) converters) =
        .fail (.statechart (unreadableError source)) ∧
      ofText source text converters = .fail (.statechart (documentError source line [])) := by
  unfold ofText readFile readText
  rw [stops]
  exact ⟨rfl, rfl⟩

end Texts

/-- A file that holds the bytes of a text in UTF-8 is read like the text under the normal
spelling of its path, which is a spelling of the same path, exactly if the text does not break
off. It never does if the encoding that it is read in admits its bytes, as UTF-8 and Latin-1 do.
If it does, the file is said to be unreadable, and the text to be malformed on a line. This holds
for every encoding that a text may declare, whatever the converters make of its bytes. -/
theorem file_readsLikeText_iff
    {tree : Tree}
    {place text : Text}
    (converters : Converters)
    (held : tree.read (Path.ofText place) = .ok (Text.utf8 text)) :
    Path.ofText (Path.ofText place).text = Path.ofText place ∧
      (ofFile tree (Path.ofText place) converters =
          ofText (Path.ofText place).text text converters ↔
        ¬ BreaksOff converters text) ∧
      ((encodingOf (Text.utf8 text) converters).1.Admits converters text →
        ¬ BreaksOff converters text) ∧
      ∀ line, Document.read (Text.utf8 text) converters = .error (.undecodable line) →
        ofFile tree (Path.ofText place) converters =
            .fail (.statechart (unreadableError (Path.ofText place).text)) ∧
          ofText (Path.ofText place).text text converters =
            .fail (.statechart (documentError (Path.ofText place).text line [])) := by
  have isPlace := Path.ofText_text_ofText place
  have opened : ofFile tree (Path.ofText place) converters =
      runOf (readFile (Path.ofText place).text (Path.ofText place).stem (Text.utf8 text)
        converters) := by
    rw [ofFile, held]
  have sameIff := runOf_readFile_eq_iff converters (Path.ofText place).text text
  rw [isPlace] at sameIff
  rw [opened]
  exact ⟨isPlace, sameIff, not_breaksOff_of_admits,
    fun line => outcomes_of_breaksOff converters _ _ text⟩

/-- A file in a directory. -/
def planted (name text : Text) : Tree :=
  (Tree.empty ["work"]).plant ["d", name] (.file (Text.utf8 text))

/-- A bulb without a name, in Latin-1. -/
def bulbText : Text := "<?xml version='1.0' " ++ "encoding='latin1'?>" ++ "<scxml x='é'/>"

/-- A lamp in ASCII, and after it a character that is none of ASCII. -/
def lampText : Text := "<?xml version='1.0' " ++ "encoding='US-ASCII'?>" ++ "<scxml name='lamp'/>é"

/-- The file of the bulb may be called by a longer spelling of its path. -/
theorem file_readsLikeText_bulb :
    (planted "b.v1.scxml" bulbText).read (Path.ofText "./d//b.v1.scxml") =
        .ok (Text.utf8 bulbText) ∧
      (encodingOf (Text.utf8 bulbText) .none).1.Admits .none bulbText ∧
      ofFile (planted "b.v1.scxml" bulbText) (Path.ofText "./d//b.v1.scxml") =
        ofText "d/b.v1.scxml" bulbText := by
  have held : (planted "b.v1.scxml" bulbText).read (Path.ofText "./d//b.v1.scxml") =
      .ok (Text.utf8 bulbText) := by
    decide +kernel
  have isLatin : (encodingOf (Text.utf8 bulbText) .none).1 = .latin1 := by decide +kernel
  have admits : (encodingOf (Text.utf8 bulbText) .none).1.Admits .none bulbText :=
    isLatin ▸ .latin1
  have normal : (Path.ofText "./d//b.v1.scxml").text = "d/b.v1.scxml" := by decide +kernel
  obtain ⟨-, agree, never, -⟩ := file_readsLikeText_iff .none held
  rw [normal] at agree
  exact ⟨held, admits, agree.mpr (never admits)⟩

/-- The file of the lamp is there and is said to be unreadable, while its text is said to be
malformed on its first line. -/
theorem file_unreadable_lamp :
    (planted "l" lampText).read (Path.ofText "d/l") = .ok (Text.utf8 lampText) ∧
      (ofFile (planted "l" lampText) (Path.ofText "d/l")).outcome =
        .error (.statechart (unreadableError "d/l")) ∧
      (ofText "d/l" lampText).outcome = .error (.statechart (documentError "d/l" 1 [])) ∧
      ofFile (planted "l" lampText) (Path.ofText "d/l") ≠ ofText "d/l" lampText := by
  have held : (planted "l" lampText).read (Path.ofText "d/l") = .ok (Text.utf8 lampText) := by
    decide +kernel
  have fileFails : (ofFile (planted "l" lampText) (Path.ofText "d/l")).outcome =
      .error (.statechart (unreadableError "d/l")) := by
    decide +kernel
  have textFails : (ofText "d/l" lampText).outcome =
      .error (.statechart (documentError "d/l" 1 [])) := by
    decide +kernel
  refine ⟨held, fileFails, textFails, fun same => ?_⟩
  have sameError := fileFails.symm.trans ((congrArg Run.outcome same).trans textFails)
  cases sameError

end Statechart
end SkillNode
