import SkillNode.Text.Letter
import SkillNode.Text.Blank

/-!
# Template tokens

A template is text with tags: `$ … $` around an expression to print, `{% … %}`
around a statement, `{# … #}` around a comment, and a raw part whose text is
copied as it is. A sign at a tag decides about the white space beside it; without
one, a statement or comment alone on its line takes the white space before it and
the line break after it along.

The text is cut into tokens with the lines they start on. Where it cannot be cut
further a fault stands instead; it matters only to whoever comes to it.
-/

namespace SkillNode
namespace Template

/-- A piece of a template. -/
inductive Token
  /-- Text outside tags. -/
  | data (content : Text)
  | outputBegin
  | outputEnd
  | statementBegin
  | statementEnd
  | name (content : Text)
  | number (value : Int)
  | string (content : Text)
  | sign (content : Text)
  /-- A number with a fraction or an exponent. -/
  | fraction
  /-- A whole number of too many digits. -/
  | longNumber
  | ending
  /-- Nothing can be cut here. -/
  | fault
  deriving DecidableEq, Repr

/-- Whether nobody gets past a token. -/
def Token.isFault : Token → Bool
  | .longNumber | .fault => true
  | _ => false

/-- A token and the line it starts on. -/
structure PlacedToken where
  line : Nat
  token : Token
  deriving DecidableEq, Repr

/-! ## Tags in text -/

/-- The sign at the start of a tag. -/
inductive StripSign
  | strip
  | keep
  | plain
  deriving DecidableEq, Repr

/-- The sign at the start of a text and what follows it. -/
def StripSign.take : Text → StripSign × Text
  | '-' :: rest => (.strip, rest)
  | '+' :: rest => (.keep, rest)
  | rest => (.plain, rest)

/-- What a tag begins. -/
inductive TagKind
  | raw
  | comment
  | statement
  | output
  deriving DecidableEq, Repr

/-- The beginning of a tag: what it begins, its sign, and what follows. -/
structure Opening where
  kind : TagKind
  sign : StripSign
  rest : Text
  deriving DecidableEq, Repr

/-- What follows a word with optional blanks around it, if it comes next. -/
def afterWord? (word text : Text) : Option Text :=
  (Text.afterPrefix? word (Text.trimStart text)).map Text.trimStart

/-- What follows the beginning of a raw part, if one begins here. -/
def afterRawBegin? (text : Text) : Option Text :=
  match afterWord? "raw" text with
  | some ('-' :: '%' :: '}' :: rest) => some (Text.trimStart rest)
  | some ('%' :: '}' :: rest) => some rest
  | _ => none

/-- The tag that begins at the start of a text, if one does. -/
def openingAt? : Text → Option Opening
  | '{' :: '%' :: rest =>
      let (sign, inside) := StripSign.take rest
      match afterRawBegin? inside with
      | some rest => some ⟨.raw, sign, rest⟩
      | none => some ⟨.statement, sign, inside⟩
  | '{' :: '#' :: rest =>
      let (sign, inside) := StripSign.take rest
      some ⟨.comment, sign, inside⟩
  | '$' :: rest =>
      let (sign, inside) := StripSign.take rest
      some ⟨.output, sign, inside⟩
  | _ => none

/-- The text before the first tag and the tag, if there is one. -/
def firstOpening? : Text → Option (Text × Opening)
  | [] => none
  | c :: rest =>
      match openingAt? (c :: rest) with
      | some opening => some ([], opening)
      | none => (firstOpening? rest).map fun (before, opening) => (c :: before, opening)

/-- Without the blanks after its last line break, if that part is blank and stands
at the start of a line. -/
def withoutIndent (lineStarting : Bool) (text : Text) : Text :=
  let indent := text.reverse.takeWhile (· ≠ '\n')
  let startsLine := indent.length < text.length || lineStarting
  if startsLine && indent.all Text.isBlank then
    text.take (text.length - indent.length)
  else
    text

/-- What is kept of the text before a tag. -/
def keptBefore (lineStarting isOutput : Bool) (sign : StripSign) (text : Text) : Text :=
  match sign with
  | .strip => Text.trimEnd text
  | .keep => text
  | .plain => if isOutput then text else withoutIndent lineStarting text

/-- What follows the end of a tag, if the tag ends here. Ends with a minus sign
take the blanks after them along, other ends one line break. -/
def afterEnd? (mark text : Text) : Option Text :=
  let closing := mark ++ ['}']
  match Text.afterPrefix? ('+' :: closing) text with
  | some rest => some rest
  | none =>
      match Text.afterPrefix? ('-' :: closing) text with
      | some rest => some (Text.trimStart rest)
      | none =>
          match Text.afterPrefix? closing text with
          | some ('\n' :: rest) => some rest
          | some rest => some rest
          | none => none

/-- What follows the end of an output tag, if it ends here. -/
def afterOutputEnd? : Text → Option Text
  | '-' :: '$' :: rest => some (Text.trimStart rest)
  | '$' :: rest => some rest
  | _ => none

/-- What follows the end of a comment. -/
def afterComment? : Text → Option Text
  | [] => none
  | c :: rest =>
      match afterEnd? "#" (c :: rest) with
      | some after => some after
      | none => afterComment? rest

/-- The end of a raw part at the start of a text: its sign and what follows. -/
def rawEndAt? : Text → Option (StripSign × Text)
  | '{' :: '%' :: rest =>
      let (sign, inside) := StripSign.take rest
      ((afterWord? "endraw" inside).bind (afterEnd? "%")).map (sign, ·)
  | _ => none

/-- The text of a raw part, the sign at its end and what follows. -/
def rawPart? : Text → Option (Text × StripSign × Text)
  | [] => none
  | c :: rest =>
      match rawEndAt? (c :: rest) with
      | some (sign, after) => some ([], sign, after)
      | none => (rawPart? rest).map fun (content, found) => (c :: content, found)

/-! ## Tokens in tags -/

/-- The part of a text that was taken when another text follows it. -/
def takenBefore (text rest : Text) : Text := text.take (text.length - rest.length)

/-- A character of a number after its first digit, of a base. -/
def digitOf? (base : Nat) (c : Char) : Option Nat :=
  let value? :=
    if c.isDigit then some (c.toNat - '0'.toNat)
    else if 'a' ≤ c && c ≤ 'f' then some (c.toNat - 'a'.toNat + 10)
    else if 'A' ≤ c && c ≤ 'F' then some (c.toNat - 'A'.toNat + 10)
    else none
  value?.filter (· < base)

/-- Read digits of a base, each perhaps after an underscore, onto a number. -/
def readDigits (base number : Nat) : Text → Nat × Text
  | [] => (number, [])
  | '_' :: c :: rest =>
      match digitOf? base c with
      | some digit => readDigits base (number * base + digit) rest
      | none => (number, '_' :: c :: rest)
  | c :: rest =>
      match digitOf? base c with
      | some digit => readDigits base (number * base + digit) rest
      | none => (number, c :: rest)

/-- Read a whole number with its base mark: it has a digit, and only zeros follow a
leading zero. -/
def readNumber? : Text → Option (Nat × Text)
  | '0' :: mark :: rest =>
      let base? : Option Nat :=
        if mark = 'b' || mark = 'B' then some 2
        else if mark = 'o' || mark = 'O' then some 8
        else if mark = 'x' || mark = 'X' then some 16
        else none
      let zeros := some (0, (readDigits 1 0 (mark :: rest)).2)
      match base? with
      | some base =>
          let found := readDigits base 0 rest
          if found.2.length < rest.length then some found else zeros
      | none => zeros
  | c :: rest =>
      if c.isDigit then some (readDigits 10 (c.toNat - '0'.toNat) rest) else none
  | [] => none

/-- The token of a whole number that is written as a text. A number in decimal digits is refused
for too many of them, leading zeros included; a number with a base mark if it could not be
printed. -/
def numberToken (written : Text) (number : Nat) : Token :=
  let isDecimal := written.all fun c => c.isDigit || c = '_'
  if isDecimal && Text.maxDigits < written.countP (· ≠ '_') || !Text.isPrintable number then
    .longNumber
  else
    .number number

/-- What follows groups of digits joined by single underscores, if a digit comes
next. -/
def afterDigits? : Text → Option Text
  | c :: rest => if c.isDigit then some (readDigits 10 0 rest).2 else none
  | [] => none

/-- What follows an exponent, if one comes next. -/
def afterExponent? : Text → Option Text
  | mark :: rest =>
      if mark = 'e' || mark = 'E' then
        match rest with
        | '+' :: digits | '-' :: digits => afterDigits? digits
        | digits => afterDigits? digits
      else
        none
  | [] => none

/-- What follows a number with a fraction or an exponent, if one comes next. -/
def afterFraction? (text : Text) : Option Text :=
  match afterDigits? text with
  | none => none
  | some rest =>
      let fraction? := (Text.afterPrefix? "." rest).bind afterDigits?
      match fraction? with
      | some after => (afterExponent? after).or (some after)
      | none => afterExponent? rest

/-- The text of a string up to its closing quote as written, and what follows. -/
def stringBody? (quote : Char) : Text → Option (Text × Text)
  | [] => none
  | '\\' :: c :: rest =>
      (stringBody? quote rest).map fun (body, after) => ('\\' :: c :: body, after)
  | c :: rest =>
      if c = quote then
        some ([], rest)
      else if c = '\\' then
        none
      else
        (stringBody? quote rest).map fun (body, after) => (c :: body, after)

/-- The value of some hexadecimal digits, all of which have to be there. -/
def hexNumber? : Nat → Nat → Text → Option (Nat × Text)
  | 0, number, rest => some (number, rest)
  | count + 1, number, c :: rest =>
      match digitOf? 16 c with
      | some digit => hexNumber? count (number * 16 + digit) rest
      | none => none
  | _ + 1, _, [] => none

/-- The number of up to three octal digits. -/
def octalNumber : Nat → Nat → Text → Nat × Text
  | count + 1, number, c :: rest =>
      match digitOf? 8 c with
      | some digit => octalNumber count (number * 8 + digit) rest
      | none => (number, c :: rest)
  | _, number, rest => (number, rest)

/-- The character of a short escape. -/
def shortEscape? (c : Char) : Option Char :=
  if c = 'a' then some '\x07'
  else if c = 'b' then some '\x08'
  else if c = 'f' then some '\x0c'
  else if c = 'n' then some '\n'
  else if c = 'r' then some '\r'
  else if c = 't' then some '\t'
  else if c = 'v' then some '\x0b'
  else if c = '\\' || c = '\'' || c = '"' then some c
  else none

/-- The text that a string stands for, if its escapes are complete. A backslash
before another character stands for itself. -/
def unescape? : Nat → Text → Option Text
  | 0, _ => none
  | _ + 1, [] => some []
  | fuel + 1, '\\' :: c :: rest =>
      let wide (count : Nat) : Option Text :=
        (hexNumber? count 0 rest).bind fun (code, after) =>
          if code.isValidChar then (unescape? fuel after).map (Char.ofNat code :: ·) else none
      match shortEscape? c with
      | some meant => (unescape? fuel rest).map (meant :: ·)
      | none =>
          if c = '\n' then unescape? fuel rest
          else if c = 'x' then wide 2
          else if c = 'u' then wide 4
          else if c = 'U' then wide 8
          else if c = 'N' then none
          else if (digitOf? 8 c).isSome then
            let (code, after) := octalNumber 3 0 (c :: rest)
            (unescape? fuel after).map (Char.ofNat code :: ·)
          else (unescape? fuel rest).map ('\\' :: c :: ·)
  | fuel + 1, c :: rest => (unescape? fuel rest).map (c :: ·)

/-- The signs of expressions, longer ones first. -/
def signs : List Text :=
  ["//", "**", "==", "!=", ">=", "<=", "+", "-", "/", "*", "%", "~", "[", "]", "(", ")",
    "\x7b", "\x7d", ">", "<", "=", ".", ":", "|", ",", ";"]

/-- The bracket that closes an opening bracket. -/
def closingOf? (opening : Text) : Option Text :=
  if opening = "(" then some ")"
  else if opening = "[" then some "]"
  else if opening = "\x7b" then some "\x7d"
  else none

/-- Whether a sign is a closing bracket. -/
def isClosing (sign : Text) : Bool := sign = ")" || sign = "]" || sign = "\x7d"

/-- The open brackets after a sign, unless it closes another bracket than the
last. The closing brackets awaited stand in a list, the next one first. -/
def bracketsAfter? (awaited : List Text) (sign : Text) : Option (List Text) :=
  match closingOf? sign with
  | some closing => some (closing :: awaited)
  | none =>
      if isClosing sign then
        match awaited with
        | next :: others => if next = sign then some others else none
        | [] => none
      else
        some awaited

/-- Cut the next token of a tag, after blanks, off a text that is not empty. A
fraction does not follow a point. -/
def cutToken (afterPoint : Bool) (text : Text) : Token × Text :=
  let fraction? := if afterPoint then none else afterFraction? text
  match fraction? with
  | some rest => (.fraction, rest)
  | none =>
      match readNumber? text with
      | some (value, rest) => (numberToken (takenBefore text rest) value, rest)
      | none =>
          let word := text.takeWhile Text.isWordCharacter
          if !word.isEmpty then
            (if Text.isIdentifier word then .name word else .fault, text.drop word.length)
          else
            match text with
            | c :: rest =>
                let string? :=
                  if c = '\'' || c = '"' then stringBody? c rest else none
                match string? with
                | some (body, after) =>
                    match unescape? (body.length + 1) body with
                    | some content => (.string content, after)
                    | none => (.fault, after)
                | none =>
                    match signs.find? (·.isPrefixOf text) with
                    | some sign => (.sign sign, text.drop sign.length)
                    | none => (.fault, rest)
            | [] => (.fault, [])

/-! ## Whole templates -/

/-- Where the cutting stands: in text or inside a tag with brackets open. -/
inductive CutState
  | inText (lineStarting : Bool)
  | inTag (isOutput : Bool) (awaited : List Text) (afterPoint : Bool)
  deriving DecidableEq, Repr

/-- A data token, unless there is nothing in it. -/
def dataToken (line : Nat) (content : Text) : List PlacedToken :=
  if content.isEmpty then [] else [⟨line, .data content⟩]

/-- Whether a text ends with a line break. -/
def endsLine (text : Text) : Bool := text.getLast? = some '\n'

/-- Cut a text into tokens from a line on. -/
def tokensFrom : Nat → CutState → Nat → Text → List PlacedToken
  | 0, _, line, _ => [⟨line, .fault⟩]
  | fuel + 1, .inText lineStarting, line, text =>
      match firstOpening? text with
      | none => dataToken line text
      | some (before, ⟨kind, sign, rest⟩) =>
          let kept := keptBefore lineStarting (kind = .output) sign before
          let openLine := line + Text.lineFeeds before
          let opening := (takenBefore text rest).drop before.length
          dataToken line kept ++
            match kind with
            | .output =>
                ⟨openLine, .outputBegin⟩ :: tokensFrom fuel (.inTag true [] false) openLine rest
            | .statement =>
                ⟨openLine, .statementBegin⟩ :: tokensFrom fuel (.inTag false [] false) openLine rest
            | .comment =>
                match afterComment? rest with
                | none => [⟨openLine, .fault⟩]
                | some after =>
                    let taken := takenBefore rest after
                    tokensFrom fuel (.inText (endsLine taken)) (openLine + Text.lineFeeds taken)
                      after
            | .raw =>
                let rawLine := openLine + Text.lineFeeds opening
                match rawPart? rest with
                | none => [⟨rawLine, .fault⟩]
                | some (content, endSign, after) =>
                    let taken := takenBefore rest after
                    dataToken rawLine (keptBefore (endsLine opening) false endSign content) ++
                      tokensFrom fuel (.inText (endsLine taken)) (rawLine + Text.lineFeeds taken)
                        after
  | fuel + 1, .inTag isOutput awaited afterPoint, line, text =>
      let end? :=
        if !awaited.isEmpty then none
        else if isOutput then afterOutputEnd? text
        else afterEnd? "%" text
      match end? with
      | some rest =>
          let taken := takenBefore text rest
          ⟨line, if isOutput then .outputEnd else .statementEnd⟩ ::
            tokensFrom fuel (.inText (endsLine taken)) (line + Text.lineFeeds taken) rest
      | none =>
          match text with
          | [] => []
          | c :: rest =>
              if Text.isBlank c then
                tokensFrom fuel (.inTag isOutput awaited false)
                  (if c = '\n' then line + 1 else line) rest
              else
                let (token, rest) := cutToken afterPoint (c :: rest)
                let lineAfter := line + Text.lineFeeds (takenBefore text rest)
                match token with
                | .fault => [⟨line, .fault⟩]
                | .sign sign =>
                    match bracketsAfter? awaited sign with
                    | none => [⟨line, .fault⟩]
                    | some awaited =>
                        ⟨line, token⟩ ::
                          tokensFrom fuel (.inTag isOutput awaited (sign = ".")) lineAfter rest
                | _ =>
                    ⟨line, token⟩ ::
                      tokensFrom fuel (.inTag isOutput awaited false) lineAfter rest

/-- The tokens of a template, the ending last on the line of the token before it. -/
def tokens (text : Text) : List PlacedToken :=
  let cut := tokensFrom (text.length + 1) (.inText true) 1 text
  cut ++ [⟨(cut.getLast?.map PlacedToken.line).getD 1, .ending⟩]

end Template
end SkillNode
