import SkillNode.Markup.Reader

/-!
# Where the text of a document ends

The decoded text of a document ends where its bytes end, or before a byte that is no character
of its encoding. No reader changes which of the two it is, and only in the second case does a
reader stop for want of a character.

Readers are put together from a few that do this by themselves: there is one lemma for each way
of putting readers together, and from it one for each reader.
-/

namespace SkillNode
namespace Markup

/-- The mark of where the text ends is left alone by a reader. If all bytes are decoded, a stop
is not for a byte. -/
structure LeavesEnd {Result : Type} (reader : Reader Result) : Prop where
  mark : ∀ cursor result next, reader cursor = .ok (result, next) → next.whole = cursor.whole
  stop : ∀ cursor fault, cursor.whole = true → reader cursor = .error fault →
    ∃ line quote, fault = .malformed line quote

namespace LeavesEnd

/-! ## Moves and stops -/

/-- The fault of a stop where all bytes are decoded. -/
theorem faultQuoting_of_whole
    {cursor : Cursor}
    (isWhole : cursor.whole = true)
    (quote : Text) :
    cursor.faultQuoting quote = .malformed cursor.line quote := by
  simp [Cursor.faultQuoting, isWhole]

/-- A reader that stops wherever it is. -/
theorem ofStop
    {Result : Type}
    {reader : Reader Result}
    (stops : ∀ cursor, ∃ quote, reader cursor = .error (cursor.faultQuoting quote)) :
    LeavesEnd reader where
  mark := by
    intro cursor result next runs
    obtain ⟨quote, stopped⟩ := stops cursor
    rw [stopped] at runs
    cases runs
  stop := by
    intro cursor fault isWhole runs
    obtain ⟨quote, stopped⟩ := stops cursor
    rw [stopped] at runs
    cases runs
    exact ⟨_, _, faultQuoting_of_whole isWhole quote⟩

/-- A reader that moves on, or stays, wherever it is. -/
theorem ofMove
    {Result : Type}
    {reader : Reader Result}
    {move : Cursor → Result × Cursor}
    (moves : ∀ cursor, reader cursor = .ok (move cursor))
    (keeps : ∀ cursor, (move cursor).2.whole = cursor.whole) :
    LeavesEnd reader where
  mark := by
    intro cursor result next runs
    rw [moves] at runs
    rw [← keeps cursor, Except.ok.inj runs]
  stop := by
    intro cursor fault _ runs
    rw [moves] at runs
    cases runs

/-! ## Ways of putting readers together -/

section Combinators

variable {First Result : Type}

theorem pure (result : Result) : LeavesEnd (Pure.pure result : Reader Result) :=
  .ofMove (fun _ => rfl) fun _ => rfl

theorem bind
    {reader : Reader First}
    {next : First → Reader Result}
    (first : LeavesEnd reader)
    (second : ∀ found, LeavesEnd (next found)) :
    LeavesEnd (reader >>= next) where
  mark := by
    intro cursor result final runs
    change Except.bind (reader cursor) (fun (found, middle) => next found middle) = _ at runs
    cases firstRuns : reader cursor with
    | error fault =>
        rw [firstRuns] at runs
        cases runs
    | ok reached =>
        rw [firstRuns] at runs
        exact ((second reached.1).mark _ _ _ runs).trans (first.mark _ _ _ firstRuns)
  stop := by
    intro cursor fault isWhole runs
    change Except.bind (reader cursor) (fun (found, middle) => next found middle) = _ at runs
    cases firstRuns : reader cursor with
    | error earlier =>
        rw [firstRuns] at runs
        cases runs
        exact first.stop cursor fault isWhole firstRuns
    | ok reached =>
        rw [firstRuns] at runs
        exact (second reached.1).stop _ fault ((first.mark _ _ _ firstRuns).trans isWhole) runs

theorem map
    {reader : Reader First}
    (change : First → Result)
    (first : LeavesEnd reader) :
    LeavesEnd (change <$> reader) :=
  bind first fun _ => pure _

theorem ite
    {condition : Prop}
    [Decidable condition]
    {first second : Reader Result}
    (ifTrue : LeavesEnd first)
    (ifFalse : LeavesEnd second) :
    LeavesEnd (if condition then first else second) := by
  split
  · exact ifTrue
  · exact ifFalse

/-- A step that is only taken under a condition. -/
theorem optional
    {condition : Prop}
    [Decidable condition]
    {step : Reader Unit}
    {next : Unit → Reader Result}
    (first : LeavesEnd step)
    (later : ∀ taken, LeavesEnd (next taken)) :
    LeavesEnd (if condition then step >>= next else next ()) :=
  ite (bind first later) (later ())

end Combinators

/-! ## Single steps -/

theorem stopReader {Result : Type} : LeavesEnd (Reader.stop : Reader Result) :=
  .ofStop fun _ => ⟨_, rfl⟩

theorem stopInside {Result : Type} (opening piece : Text) :
    LeavesEnd (Reader.stopInside opening piece : Reader Result) :=
  .ofStop fun _ => ⟨_, rfl⟩

theorem get : LeavesEnd (MonadState.get : Reader Cursor) :=
  .ofMove (fun _ => rfl) fun _ => rfl

theorem skip (count : Nat) : LeavesEnd (Reader.skip count) :=
  .ofMove (fun _ => rfl) fun _ => rfl

theorem require (condition : Bool) : LeavesEnd (Reader.require condition) :=
  .ite (.pure ()) .stopReader

theorem remaining : LeavesEnd Reader.remaining := .bind .get fun _ => .pure _

theorem line : LeavesEnd Reader.line := .bind .get fun _ => .pure _

theorem peek? : LeavesEnd Reader.peek? := .bind .get fun _ => .pure _

theorem sees (text : Text) : LeavesEnd (Reader.sees text) := .bind .get fun _ => .pure _

theorem accept (text : Text) : LeavesEnd (Reader.accept text) :=
  .bind (.sees text) fun _ => .ite (.bind (.skip _) fun _ => .pure _) (.pure _)

theorem expect (text : Text) : LeavesEnd (Reader.expect text) :=
  .bind (.accept text) fun _ => .require _

theorem takeWhile (class? : Char → Bool) : LeavesEnd (Reader.takeWhile class?) :=
  .bind .remaining fun _ => .bind (.skip _) fun _ => .pure _

theorem spaces : LeavesEnd Reader.spaces := .bind (.takeWhile _) fun _ => .pure _

theorem requireSpaces : LeavesEnd Reader.requireSpaces := .bind .spaces fun _ => .require _

theorem name : LeavesEnd Reader.name :=
  .bind .remaining fun _ => .bind (.require _) fun _ => .bind (.skip _) fun _ => .pure _

theorem plainName : LeavesEnd Reader.plainName :=
  .bind .remaining fun _ => .bind (.require _) fun _ => .bind (.skip _) fun _ => .pure _

theorem takeThrough (ending : Text) : LeavesEnd (Reader.takeThrough ending) :=
  .bind .remaining fun _ => .bind (.skip _) fun _ => .bind (.expect _) fun _ => .pure _

theorem quoted : LeavesEnd Reader.quoted := by
  refine .bind .peek? fun next => ?_
  split
  · exact .bind (.skip _) fun _ => .takeThrough _
  · exact .bind (.skip _) fun _ => .takeThrough _
  · exact .stopReader

theorem equals : LeavesEnd Reader.equals :=
  .bind .spaces fun _ => .bind (.expect _) fun _ => .bind .spaces fun _ => .pure _

/-! ## References and attribute values -/

theorem ofOption {Result : Type} (result? : Option Result) :
    LeavesEnd (Reader.ofOption result?) := by
  cases result? with
  | none => exact .stopReader
  | some result => exact .pure result

theorem characterReference : LeavesEnd Reader.characterReference :=
  .bind (.expect _) fun _ => .bind (.takeWhile _) fun _ => .bind (.expect _) fun _ => .ofOption _

theorem entityReference : LeavesEnd Reader.entityReference :=
  .bind (.expect _) fun _ => .bind .name fun _ => .bind (.expect _) fun _ => .pure _

variable (declarations : Declarations)

theorem attributeReference : LeavesEnd (Reader.attributeReference declarations) := by
  refine .bind (.sees _) fun isNumeric => .ite (.bind .characterReference fun _ => .pure _)
    (.bind .entityReference fun found => ?_)
  split
  · exact .pure _
  · split
    · exact .ofOption _
    · exact .stopReader
    · exact .bind (.require _) fun _ => .pure _

theorem attributeRest (quote : Char) :
    (fuel : Nat) → LeavesEnd (Reader.attributeRest declarations quote fuel)
  | 0 => .stopReader
  | fuel + 1 => by
      have later := attributeRest quote fuel
      refine .bind (.takeWhile _) fun plain => .bind (.accept _) fun isClosed => .ite (.pure _)
        (.bind (.sees _) fun isReference => .ite ?_ ?_)
      · exact .bind (attributeReference declarations) fun _ => .bind later fun _ => .pure _
      · refine .bind .peek? fun next => .bind (.require _) fun _ => .bind (.sees _) fun isPair =>
          .ite ?_ ?_
        · exact .bind (.skip _) fun _ => .bind later fun _ => .pure _
        · exact .bind (.skip _) fun _ => .bind later fun _ => .pure _

theorem attributeValue : LeavesEnd (Reader.attributeValue declarations) :=
  .bind .remaining fun _ => .bind (.accept _) fun _ =>
    .ite (.attributeRest declarations _ _)
      (.bind (.expect _) fun _ => .attributeRest declarations _ _)

/-! ## Start tags -/

theorem qualifiedName : LeavesEnd Reader.qualifiedName :=
  .bind .plainName fun _ => .bind (.accept _) fun _ => .ite
    (.bind .plainName fun _ => .bind (.sees _) fun _ => .bind (.require _) fun _ => .pure _)
    (.pure _)

theorem writtenAttribute : LeavesEnd (Reader.writtenAttribute declarations) :=
  .bind .qualifiedName fun _ => .bind .equals fun _ => .bind (.attributeValue declarations) fun _ =>
    .pure _

theorem seesTagEnd : LeavesEnd Reader.seesTagEnd :=
  .bind (.sees _) fun _ => .bind (.sees _) fun _ => .pure _

theorem tagAttributes :
    (fuel : Nat) → (tag : WrittenTag) → LeavesEnd (Reader.tagAttributes declarations fuel tag)
  | 0, _ => .stopReader
  | fuel + 1, _ =>
      .bind .seesTagEnd fun _ => .ite (.pure _)
        (.bind (.writtenAttribute declarations) fun _ => .bind (.ofOption _) fun extended =>
          .bind .seesTagEnd fun _ => .ite (.pure _)
            (.bind .requireSpaces fun _ => tagAttributes fuel extended))

theorem writtenTag : LeavesEnd (Reader.writtenTag declarations) :=
  .bind (.expect _) fun _ => .bind .qualifiedName fun _ => .bind .spaces fun _ =>
    .bind .remaining fun _ => .tagAttributes declarations _ _

theorem startTag (outer : Scope) : LeavesEnd (Reader.startTag declarations outer) :=
  .bind (.writtenTag declarations) fun _ => .bind .line fun _ => .bind (.ofOption _) fun _ =>
    .bind (.accept _) fun _ => .ite (.pure _) (.bind (.expect _) fun _ => .pure _)

/-! ## Comments and instructions -/

theorem stopInComment (piece : Text) : LeavesEnd (Reader.stopInComment piece) :=
  .bind (.sees _) fun _ => .ite (.ite (.stopInside _ _) .stopReader)
    (.bind .remaining fun _ => .ite (.stopInside _ _) .stopReader)

theorem comment : LeavesEnd Reader.comment :=
  .bind (.expect _) fun _ => .bind .remaining fun _ => .bind (.skip _) fun _ =>
    .bind (.accept _) fun _ => .ite (.pure _) (.stopInComment _)

theorem instruction : LeavesEnd Reader.instruction :=
  .bind (.expect _) fun _ => .bind .plainName fun _ => .bind (.sees _) fun _ =>
    .bind (.require _) fun _ => .bind (.accept _) fun _ => .ite (.pure _)
      (.bind .requireSpaces fun _ => .bind (.takeThrough _) fun _ => .pure _)

theorem miscellany : (fuel : Nat) → LeavesEnd (Reader.miscellany fuel)
  | 0 => .stopReader
  | fuel + 1 =>
      .bind .spaces fun _ => .bind (.sees _) fun _ => .ite
        (.bind .instruction fun _ => miscellany fuel)
        (.bind (.sees _) fun _ => .ite (.bind .comment fun _ => miscellany fuel) (.pure _))

/-! ## Prologs -/

theorem quotedOf (class? : Char → Bool) : LeavesEnd (Reader.quotedOf class?) :=
  .bind (.accept _) fun _ => .ite
    (.bind (.takeWhile _) fun _ => .bind (.expect _) fun _ => .pure _)
    (.bind (.expect _) fun _ => .bind (.takeWhile _) fun _ => .bind (.expect _) fun _ => .pure _)

theorem encodingDeclaration? : LeavesEnd Reader.encodingDeclaration? :=
  .bind (.accept _) fun _ => .ite
    (.bind .equals fun _ => .bind (.quotedOf _) fun _ => .bind (.require _) fun _ => .pure _)
    (.pure _)

theorem standaloneDeclaration : LeavesEnd Reader.standaloneDeclaration :=
  .bind (.accept _) fun _ => .ite
    (.bind .equals fun _ => .bind (.quotedOf _) fun _ => .bind (.require _) fun _ => .pure _)
    (.pure _)

theorem xmlDeclaration (acceptable : Text → Bool) : LeavesEnd (Reader.xmlDeclaration acceptable) :=
  .bind (.expect _) fun _ => .bind .requireSpaces fun _ => .bind (.expect _) fun _ =>
    .bind .equals fun _ => .bind (.quotedOf _) fun _ => .bind (.require _) fun _ =>
      .bind .spaces fun _ => .bind (.accept _) fun _ => .ite (.pure _)
        (.bind (.require _) fun _ => .bind .encodingDeclaration? fun _ =>
          .bind (.require _) fun _ => .bind .spaces fun _ => .bind (.accept _) fun _ =>
            .ite (.pure _)
              (.bind (.require _) fun _ => .bind .standaloneDeclaration fun _ =>
                .bind .spaces fun _ => .bind (.expect _) fun _ => .pure _))

theorem seesXmlDeclaration : LeavesEnd Reader.seesXmlDeclaration := by
  refine .bind .remaining fun text => ?_
  split <;> exact .pure _

theorem optionalXmlDeclaration (acceptable : Text → Bool) :
    LeavesEnd (Reader.optionalXmlDeclaration acceptable) :=
  .bind .seesXmlDeclaration fun _ => .ite (.xmlDeclaration acceptable) (.pure _)

theorem externalId : LeavesEnd Reader.externalId :=
  .bind (.accept _) fun _ => .ite
    (.bind .requireSpaces fun _ => .bind .quoted fun _ => .pure _)
    (.bind (.accept _) fun _ => .ite
      (.bind .requireSpaces fun _ => .bind .quoted fun _ => .bind .requireSpaces fun _ =>
        .bind .quoted fun _ => .pure _)
      (.pure _))

theorem entityValue : LeavesEnd Reader.entityValue := .bind .quoted fun _ => .ofOption _

theorem entityDeclaration : LeavesEnd (Reader.entityDeclaration declarations) := by
  have ending (isParameter : Bool) (found : Text) (body : EntityBody) : LeavesEnd (do
      let _ ← Reader.spaces
      Reader.expect ">"
      return if isParameter then declarations else declarations.declare found body) :=
    .bind .spaces fun _ => .bind (.expect _) fun _ => .pure _
  refine .bind (.expect _) fun _ => .bind .requireSpaces fun _ =>
    .bind (.accept _) fun isParameter => .optional .requireSpaces fun _ =>
      .bind .plainName fun found => .bind (.sees _) fun _ => .bind (.require _) fun _ =>
        .bind .requireSpaces fun _ => .bind .peek? fun _ => .bind .peek? fun _ => .ite ?_ ?_
  · exact .bind (.map _ .entityValue) (ending isParameter found)
  · exact .bind .externalId fun _ => .bind (.require _) fun _ => .bind .spaces fun _ =>
      .bind (.accept _) fun _ => .ite
        (.bind .requireSpaces fun _ => .bind .name fun _ => .bind (.pure _)
          (ending isParameter found))
        (.bind (.pure _) (ending isParameter found))

theorem otherDeclaration : (fuel : Nat) → LeavesEnd (Reader.otherDeclaration fuel)
  | 0 => .stopReader
  | fuel + 1 =>
      .bind (.takeWhile _) fun _ => .bind (.accept _) fun _ => .ite (.pure _)
        (.bind .quoted fun _ => otherDeclaration fuel)

theorem internalSubset :
    (fuel : Nat) → (declarations : Declarations) →
      LeavesEnd (Reader.internalSubset fuel declarations)
  | 0, _ => .stopReader
  | fuel + 1, declarations =>
      .bind .spaces fun _ => .bind (.accept _) fun _ => .ite (.pure _)
        (.bind (.sees _) fun _ => .ite
          (.bind (.entityDeclaration declarations) fun _ => internalSubset fuel _)
          (.bind (.sees _) fun _ => .ite (.bind .comment fun _ => internalSubset fuel _)
            (.bind (.sees _) fun _ => .ite (.bind .instruction fun _ => internalSubset fuel _)
              (.bind (.sees _) fun _ => .bind (.sees _) fun _ => .bind (.sees _) fun _ => .ite
                (.bind (.skip _) fun _ => .bind .remaining fun _ =>
                  .bind (.otherDeclaration _) fun _ => internalSubset fuel _)
                (.bind (.expect _) fun _ => .bind .name fun _ => .bind (.expect _) fun _ =>
                  internalSubset fuel _)))))

theorem documentType (isStandalone : Bool) : LeavesEnd (Reader.documentType isStandalone) := by
  have ending (declarations : Declarations) : LeavesEnd (do
      let _ ← Reader.spaces
      Reader.expect ">"
      return { declarations with isComplete := isStandalone || declarations.isComplete }) :=
    .bind .spaces fun _ => .bind (.expect _) fun _ => .pure _
  exact .bind (.accept _) fun _ => .ite
    (.bind .spaces fun _ => .bind .name fun _ => .bind .spaces fun _ => .bind .externalId fun _ =>
      .bind .spaces fun _ => .bind (.accept _) fun _ => .ite
        (.bind .remaining fun _ => .bind (.internalSubset _ _) ending)
        (.bind (.pure _) ending))
    (.pure _)

/-! ## Content -/

theorem endTag (element : OpenElement) : LeavesEnd (Reader.endTag element) :=
  .bind (.expect _) fun _ => .bind .name fun _ => .bind .spaces fun _ => .bind (.expect _) fun _ =>
    .require _

theorem characters : LeavesEnd Reader.characters :=
  .bind .remaining fun _ => .bind (.skip _) fun _ => .bind (.require _) fun _ => .pure _

theorem characterSection : LeavesEnd Reader.characterSection :=
  .bind (.expect _) fun _ => .bind .remaining fun _ => .bind (.skip _) fun _ =>
    .bind (.accept _) fun _ => .ite (.pure _) (.ite .stopReader (.stopInside _ _))

theorem contentReference (fits : Text → Bool) :
    LeavesEnd (Reader.contentReference declarations fits) := by
  refine .bind (.sees _) fun _ => .ite (.bind .characterReference fun _ => .pure _)
    (.bind .entityReference fun found => ?_)
  split
  · exact .pure _
  · split
    · exact .bind (.require _) fun _ => .pure _
    · exact .bind (.pure _) fun _ => .pure _
    · exact .bind (.require _) fun _ => .pure _

theorem content (fits : Text → Bool) :
    (fuel : Nat) → (element : OpenElement) → (outer : List OpenElement) →
      LeavesEnd (Reader.content declarations fits fuel element outer)
  | 0, _, _ => .stopReader
  | fuel + 1, element, outer => by
      have later := content fits fuel
      refine .bind (.sees _) fun _ => .ite (.bind (.endTag element) fun _ => ?_) ?_
      · split
        · exact .pure _
        · exact later _ _
      · exact .bind (.sees _) fun _ => .ite (.bind .comment fun _ => later _ _)
          (.bind (.sees _) fun _ => .ite (.bind .instruction fun _ => later _ _)
            (.bind (.sees _) fun _ => .ite (.bind .characterSection fun _ => later _ _)
              (.bind (.sees _) fun _ => .ite
                (.bind (.require _) fun _ => .bind (.startTag declarations _) fun _ =>
                  .ite (later _ _) (later _ _))
                (.bind (.sees _) fun _ => .ite
                  (.bind (.contentReference declarations fits) fun _ => later _ _)
                  (.bind .peek? fun _ => .bind (.require _) fun _ => .bind .characters fun _ =>
                    later _ _)))))

/-- A whole document is read without a change of the mark. -/
theorem document (acceptable : Text → Bool) : LeavesEnd (Reader.document acceptable) := by
  have ending (fuel : Nat) (root : OpenElement) (children : List Node) : LeavesEnd (do
      Reader.miscellany fuel
      Reader.require (← Reader.remaining).isEmpty
      return (⟨root.tag, children⟩ : Document)) :=
    .bind (.miscellany _) fun _ => .bind .remaining fun _ => .bind (.require _) fun _ => .pure _
  exact .bind .remaining fun _ => .bind (.optionalXmlDeclaration acceptable) fun _ =>
    .bind (.miscellany _) fun _ => .bind (.documentType _) fun declarations =>
      .bind (.miscellany _) fun _ => .bind (.startTag declarations _) fun _ => .ite
        (.bind (.pure _) (ending _ _))
        (.bind (.content declarations _ _ _ _) (ending _ _))

end LeavesEnd

/-! ## Documents -/

section Documents

variable (bytes : Bytes) (converters : Converters)

/-- The encoding that bytes are read in, and the bytes after a byte order mark. -/
def encodingOf : Encoding × Bytes :=
  match sniff bytes with
  | (some encoding, rest) => (encoding, rest)
  | (none, rest) =>
      (((declaredEncoding? (Text.decodeUtf8 rest).text).bind
        (Encoding.ofName? · converters)).getD .utf8, rest)

/-- The text that a document is read from, and whether all bytes are in it. -/
def decodedOf : Text.Decoded :=
  let (encoding, rest) := encodingOf bytes converters
  encoding.decode rest converters

theorem read_eq_ofDecoded :
    ∃ acceptable,
      Document.read bytes converters =
        Document.ofDecoded acceptable (decodedOf bytes converters) := by
  unfold Document.read decodedOf encodingOf
  rcases sniff bytes with ⟨_ | encoding, rest⟩ <;> exact ⟨_, rfl⟩

/-- If all bytes are decoded, a document is not refused for a byte. -/
theorem read_ne_undecodable
    {bytes : Bytes}
    {converters : Converters}
    (isWhole : (decodedOf bytes converters).whole = true)
    (line : Nat) :
    Document.read bytes converters ≠ .error (.undecodable line) := by
  obtain ⟨acceptable, reads⟩ := read_eq_ofDecoded bytes converters
  rw [reads]
  unfold Document.ofDecoded
  split
  · next document ending runs =>
      rw [if_pos (((LeavesEnd.document acceptable).mark _ _ _ runs).trans isWhole)]
      exact nofun
  · next fault runs =>
      obtain ⟨stopped, quote, rfl⟩ := (LeavesEnd.document acceptable).stop _ _ isWhole runs
      simp

end Documents

end Markup
end SkillNode
