import Lexwork.Number.Integer
import Lexwork.Regex.Fault
import Lexwork.Regex.Glyph
import Lexwork.Regex.Node

/-!
# The lexemes of a pattern

A pattern is cut into lexemes: literals, sets, anchors, references,
quantifiers, and the marks that open, close and divide groups.  Cutting does
not depend on what the lexemes build, except that the verbose option makes
blanks and comments disappear from where it is switched on.

Each lexeme tells how many glyphs it takes.  A backslash that escapes nothing
is noticed as soon as the glyph before it is taken, so it comes before every
fault of the lexeme that takes that glyph.  A closing parenthesis and the mark
behind a quantifier are looked at before they are taken.

What is read: literals, the point, sets, escapes by letter, by octal and by
hexadecimal digits, named classes, anchors, groups with and without a number or a
name, references, look-ahead and look-behind, comments, alternation, greedy and
reluctant quantifiers, and the options i, m, s and x for a whole pattern.  The
classes of digits and word characters, word boundaries and the folding of case
know only ASCII, and any character beyond it may stand in the name of a group.

Possessive quantifiers, atomic and conditional groups, options for a part of a
pattern, the options a, L and u, and characters by name are recognised, but a
pattern with one of them is refused as unsupported: it may well be in order.
-/

namespace Lexwork

namespace Regex

/-- What an opening parenthesis opens. -/
inductive Opening
  | plain
  | capture (name? : Option Text)
  | ahead (negated : Bool)
  | behind (negated : Bool)
  deriving DecidableEq, Repr

/-- How many of the rounds that it may run a quantifier wants, and whether it gives them back. -/
inductive Manner
  | greedy
  | reluctant
  | possessive
  deriving DecidableEq, Repr

inductive Lexeme
  | blank
  | literal (code : Nat)
  | any
  | set (negated : Bool) (items : List SetItem)
  | anchor (kind : Anchor)
  | reference (group : Nat)
  | namedReference (name : Text)
  | quantifier (least : Nat) (most : Option Nat) (manner : Manner)
  | opening (kind : Opening)
  | closing
  | alternation
  | flags (flags : Flags)
  deriving DecidableEq, Repr

/-- What was read, or why not, with the number of glyphs taken. -/
structure Reading (α : Type) where
  taken : Nat
  outcome : Except Refusal α

namespace Reading

def found {α : Type} (taken : Nat) (a : α) : Reading α :=
  ⟨taken, .ok a⟩

def fault {α : Type} (taken : Nat) (cause : Cause) (offset : Nat) : Reading α :=
  ⟨taken, .error (.malformed ⟨cause, some offset⟩)⟩

/-- Something was recognised that is not read here. -/
def unsupported {α : Type} (taken : Nat) (construct : Construct) : Reading α :=
  ⟨taken, .error (.unsupported construct)⟩

def map {α β : Type} (reading : Reading α) (more : Nat) (f : α → β) : Reading β :=
  ⟨reading.taken + more, reading.outcome.map f⟩

end Reading

def isHexDigit (c : Char) : Bool :=
  c.isDigit || ('a' ≤ c && c ≤ 'f') || ('A' ≤ c && c ≤ 'F')

def isOctalDigit (c : Char) : Bool :=
  '0' ≤ c && c ≤ '7'

def hexDigitValue (c : Char) : Nat :=
  if c.isDigit then c.toNat - 48
  else if 'a' ≤ c then c.toNat - 87
  else c.toNat - 55

def valueInBase (base : Nat) (digits : Text) : Nat :=
  digits.foldl (fun value c => value * base + hexDigitValue c) 0

def namedControl? : Char → Option Nat
  | 'a' => some 7
  | 'f' => some 12
  | 'n' => some 10
  | 'r' => some 13
  | 't' => some 9
  | 'v' => some 11
  | _ => none

/-- The named class that an escape letter stands for; a capital negates it. -/
def categoryEscape? : Char → Option SetItem
  | 'd' => some (.category .digit false)
  | 'D' => some (.category .digit true)
  | 's' => some (.category .space false)
  | 'S' => some (.category .space true)
  | 'w' => some (.category .word false)
  | 'W' => some (.category .word true)
  | _ => none

/-- The anchor that an escape letter stands for. -/
def anchorEscape? : Char → Option Anchor
  | 'A' => some .textStart
  | 'Z' => some .textEnd
  | 'b' => some .boundary
  | 'B' => some .notBoundary
  | _ => none

/-- The number of hexadecimal digits that an escape letter asks for. -/
def hexEscapeSize? : Char → Option Nat
  | 'x' => some 2
  | 'u' => some 4
  | 'U' => some 8
  | _ => none

def maxCode : Nat := 0x10FFFF

def readHexEscape (offset : Nat) (c : Char) (size : Nat) (rest : List Glyph) : Reading Nat :=
  let digits := Glyph.leading isHexDigit size rest
  let escape := '\\' :: c :: digits
  if digits.length < size then .fault (1 + digits.length) (.incompleteEscape escape) offset
  else if maxCode < valueInBase 16 digits then .fault (1 + size) (.badEscape escape) offset
  else .found (1 + size) (valueInBase 16 digits)

/--
Reads an escape that denotes a single code point and is the same inside and
outside of sets: a named control character, a hexadecimal code, or a character
that is neither a letter nor a digit.
-/
def readCodeEscape (offset : Nat) (c : Char) (rest : List Glyph) : Reading Nat :=
  match namedControl? c, hexEscapeSize? c with
  | some code, _ => .found 1 code
  | none, some size => readHexEscape offset c size rest
  | none, none =>
      if !c.isAlphanum then .found 1 c.toNat
      else if c = 'N' then .unsupported 1 .namedCharacter
      else .fault 1 (.badEscape ['\\', c]) offset

/-- Reads an octal escape: the digit after the backslash and at most two more. -/
def readOctalEscape (offset : Nat) (c : Char) (rest : List Glyph) : Reading Nat :=
  let digits := c :: Glyph.leading isOctalDigit 2 rest
  if 0o377 < valueInBase 8 digits then
    .fault digits.length (.octalOutOfRange ('\\' :: digits)) offset
  else
    .found digits.length (valueInBase 8 digits)

/--
Reads an escape that starts with a digit other than zero.  Three octal digits
are a code point, and anything else is a reference by one or two digits.
-/
def readDigitEscape (offset : Nat) (c : Char) (rest : List Glyph) : Reading Lexeme :=
  let octal := c :: Glyph.leading isOctalDigit 2 rest
  if isOctalDigit c && octal.length = 3 then
    (readOctalEscape offset c rest).map 0 .literal
  else
    let digits := c :: Glyph.leading Char.isDigit 1 rest
    .found digits.length (.reference (Text.digitsValue digits))

def readEscape (offset : Nat) (c : Char) (rest : List Glyph) : Reading Lexeme :=
  match anchorEscape? c, categoryEscape? c with
  | some kind, _ => .found 1 (.anchor kind)
  | none, some item => .found 1 (.set false [item])
  | none, none =>
      if c = '0' then (readOctalEscape offset c rest).map 0 .literal
      else if c.isDigit then readDigitEscape offset c rest
      else (readCodeEscape offset c rest).map 0 .literal

/-! ## Sets -/

/-- Reads an escape inside of a set, where `\b` is the backspace. -/
def readSetEscape (offset : Nat) (c : Char) (rest : List Glyph) : Reading SetItem :=
  match categoryEscape? c with
  | some item => .found 1 item
  | none =>
      if c = 'b' then .found 1 (.single 8)
      else if isOctalDigit c then (readOctalEscape offset c rest).map 0 .single
      else (readCodeEscape offset c rest).map 0 .single

def readMember (offset : Nat) (glyph : Glyph) (rest : List Glyph) : Reading SetItem :=
  if glyph.escaped then readSetEscape offset glyph.char rest
  else .found 1 (.single glyph.char.toNat)

/-- How far the reading of a set has come. -/
inductive SetPhase
  | member
  | afterMember (glyph : Glyph) (item : SetItem)
  | afterDash (glyph : Glyph) (item : SetItem)
  deriving DecidableEq, Repr

/-- What one glyph does to the reading of a set. -/
inductive SetMove
  | close (items : List SetItem)
  | go (phase : SetPhase) (items : List SetItem)
  deriving DecidableEq, Repr

/-- The range between two members, if they are code points in order. -/
def rangeOf? : SetItem → SetItem → Option SetItem
  | .range low _, .range high _ => if low ≤ high then some (.range low high) else none
  | _, _ => none

/--
One step of reading a set, with the items read so far, newest first.  A closing
bracket closes a set that is not empty; a dash before it is a literal dash.
-/
def moveInSet (offset : Nat) (glyph : Glyph) (rest : List Glyph) :
    SetPhase → List SetItem → Reading SetMove
  | .member, items =>
      if glyph.isPlain ']' && !items.isEmpty then .found 1 (.close items)
      else (readMember offset glyph rest).map 0 fun item => .go (.afterMember glyph item) items
  | .afterMember first item, items =>
      if glyph.isPlain '-' then .found 1 (.go (.afterDash first item) items)
      else if glyph.isPlain ']' then .found 1 (.close (item :: items))
      else
        (readMember offset glyph rest).map 0 fun next =>
          .go (.afterMember glyph next) (item :: items)
  | .afterDash first item, items =>
      if glyph.isPlain ']' then .found 1 (.close (.single 45 :: item :: items))
      else
        let reading := readMember offset glyph rest
        match reading.outcome with
        | .error refusal => ⟨reading.taken, .error refusal⟩
        | .ok high =>
            match rangeOf? item high with
            | some range => .found reading.taken (.go .member (range :: items))
            | none =>
                let stop := offset + glyph.width + (reading.taken - 1)
                .fault reading.taken (.badRange first.text glyph.text)
                  (stop - (first.width + 1 + glyph.width))

/--
Reads the members of a set up to its closing bracket.  `skip` glyphs belong to
the member before; `taken` counts the glyphs of the set so far, and `opened` is
the offset of its opening bracket.
-/
def readMembers (opened : Nat) (negated : Bool) :
    (skip taken offset : Nat) → SetPhase → List SetItem → List Glyph → Reading Lexeme
  | _, taken, _, _, _, [] => .fault taken .unterminatedSet opened
  | skip + 1, taken, offset, phase, items, glyph :: rest =>
      readMembers opened negated skip taken (offset + glyph.width) phase items rest
  | 0, taken, offset, phase, items, glyph :: rest =>
      let reading := moveInSet offset glyph rest phase items
      match reading.outcome with
      | .error refusal => ⟨taken + reading.taken, .error refusal⟩
      | .ok (.close items) => .found (taken + reading.taken) (.set negated items.reverse)
      | .ok (.go phase items) =>
          readMembers opened negated (reading.taken - 1) (taken + reading.taken)
            (offset + glyph.width) phase items rest

def readSet (opened : Nat) : List Glyph → Reading Lexeme
  | glyph :: rest =>
      if glyph.isPlain '^' then readMembers opened true 0 2 (opened + 2) .member [] rest
      else readMembers opened false 0 1 (opened + 1) .member [] (glyph :: rest)
  | [] => readMembers opened false 0 1 (opened + 1) .member [] []

/-- Repetition numbers have to stay below this one. -/
def repetitionLimit : Nat := 4294967295

/-- A quantifier, with the mark behind it that tells its manner. -/
def readQuantifier (taken least : Nat) (most : Option Nat) (rest : List Glyph) :
    Reading Lexeme :=
  if Glyph.startsWith '?' rest then .found (taken + 1) (.quantifier least most .reluctant)
  else if Glyph.startsWith '+' rest then .found (taken + 1) (.quantifier least most .possessive)
  else .found taken (.quantifier least most .greedy)

/-- The number that a bound denotes; an empty bound sets no bound. -/
def bound? (digits : Text) : Option Nat :=
  if digits = [] then none else some (Text.digitsValue digits)

/-- Why the repetitions that a bound asks for cannot be counted, judged by its length first. -/
def excess? (digits : Text) : Option Excess :=
  if integerDigitLimit < digits.length then some (.tooManyDigits digits.length)
  else if repetitionLimit ≤ Text.digitsValue digits then some .tooMany
  else none

/--
Makes a quantifier of the bounds between two braces, before `rest`.  Together with
the braces they take `taken` glyphs.
-/
def judgeBounds (offset taken : Nat) (low high : Text) (rest : List Glyph) : Reading Lexeme :=
  let least := (bound? low).getD 0
  let most := bound? high
  match (excess? low).or (excess? high) with
  | some excess => ⟨taken, .error (.uncountable excess)⟩
  | none =>
      if most.any (· < least) then .fault taken .leastAboveMost (offset + 1)
      else readQuantifier taken least most rest

/-- Reads a quantifier in braces; braces that hold none are literal. -/
def readBraces (offset : Nat) (rest : List Glyph) : Reading Lexeme :=
  let low := Glyph.leading Char.isDigit rest.length rest
  let afterLow := rest.drop low.length
  let hasComma := Glyph.startsWith ',' afterLow
  let high := if hasComma then Glyph.leading Char.isDigit rest.length (afterLow.drop 1) else low
  let afterHigh := if hasComma then afterLow.drop (1 + high.length) else afterLow
  if !Glyph.startsWith '}' afterHigh || (low.isEmpty && !hasComma) then
    .found 1 (.literal 123)
  else
    judgeBounds offset (1 + (rest.length - afterHigh.length) + 1) low high (afterHigh.drop 1)

/-! ## Groups -/

/-- Whether a text can name a group; beyond ASCII, every character counts as a letter. -/
def isGroupName : Text → Bool
  | [] => false
  | c :: rest =>
      (c.isAlpha || c == '_' || decide (0x7F < c.toNat)) &&
        rest.all fun d => d.isAlphanum || d == '_' || decide (0x7F < d.toNat)

/--
Reads a group name up to its terminator.  `before` glyphs were taken before the
name, which starts at `offset`.
-/
def readName (before offset : Nat) (terminator : Char) (rest : List Glyph)
    (build : Text → Lexeme) : Reading Lexeme :=
  let inside := rest.takeWhile fun glyph => !glyph.isPlain terminator
  let name := inside.flatMap Glyph.text
  let closed := decide (inside.length < rest.length)
  let taken := before + inside.length + (if closed then 1 else 0)
  if name.isEmpty then .fault taken .missingName offset
  else if !closed then .fault taken (.unterminatedName terminator) offset
  else if !isGroupName name then .fault taken (.badName name) offset
  else .found taken (build name)

def readNamed (offset : Nat) : List Glyph → Reading Lexeme
  | [] => .fault 3 .unexpectedEnd (offset + 3)
  | glyph :: rest =>
      if glyph.isPlain '<' then
        readName 4 (offset + 4) '>' rest fun name => .opening (.capture (some name))
      else if glyph.isPlain '=' then readName 4 (offset + 4) ')' rest .namedReference
      else .fault 4 (.unknownExtension ("?P" ++ glyph.text)) (offset + 1)

def readBehind (offset : Nat) : List Glyph → Reading Lexeme
  | [] => .fault 3 .unexpectedEnd (offset + 3)
  | glyph :: _ =>
      if glyph.isPlain '=' then .found 4 (.opening (.behind false))
      else if glyph.isPlain '!' then .found 4 (.opening (.behind true))
      else .fault 4 (.unknownExtension ("?<" ++ glyph.text)) (offset + 1)

def readComment (offset : Nat) (rest : List Glyph) : Reading Lexeme :=
  let inside := rest.takeWhile fun glyph => !glyph.isPlain ')'
  if inside.length < rest.length then .found (3 + inside.length + 1) .blank
  else .fault (3 + inside.length) .unterminatedComment offset

/-- What a character among the letters of a flag group stands for, if that is not read. -/
def unsupportedFlag? (c : Char) : Option Construct :=
  if c = 'a' || c = 'L' || c = 'u' then some .modeFlag
  else if c = '-' || c = ':' then some .scopedFlags
  else none

def readFlags : (taken offset : Nat) → Flags → List Glyph → Reading Lexeme
  | taken, offset, _, [] => .fault taken .missingFlagEnd offset
  | taken, offset, flags, glyph :: rest =>
      if glyph.isPlain ')' then .found (taken + 1) (.flags flags)
      else if let some construct := if glyph.escaped then none else unsupportedFlag? glyph.char then
        .unsupported (taken + 1) construct
      else
        match if glyph.escaped then none else Flags.ofLetter? glyph.char with
        | some more => readFlags (taken + 1) (offset + 1) (flags.union more) rest
        | none =>
            .fault (taken + 1)
              (if !glyph.escaped && glyph.char.isAlpha then .unknownFlag else .missingFlagEnd)
              offset

def readExtension (offset : Nat) : List Glyph → Reading Lexeme
  | [] => .fault 2 .unexpectedEnd (offset + 2)
  | glyph :: rest =>
      let unknown := .fault 3 (.unknownExtension ('?' :: glyph.text)) (offset + 1)
      if glyph.escaped then unknown
      else
        match glyph.char with
        | 'P' => readNamed offset rest
        | ':' => .found 3 (.opening .plain)
        | '#' => readComment offset rest
        | '=' => .found 3 (.opening (.ahead false))
        | '!' => .found 3 (.opening (.ahead true))
        | '<' => readBehind offset rest
        | '>' => .unsupported 3 .atomicGroup
        | '(' => .unsupported 3 .conditionalGroup
        | c =>
            match Flags.ofLetter? c, unsupportedFlag? c with
            | some flags, _ => readFlags 3 (offset + 3) flags rest
            | none, some construct => .unsupported 3 construct
            | none, none => unknown

def readOpening (offset : Nat) (rest : List Glyph) : Reading Lexeme :=
  if Glyph.startsWith '?' rest then readExtension offset (rest.drop 1)
  else .found 1 (.opening (.capture none))

/-- Whether the verbose option skips a character. -/
def isVerboseBlank (c : Char) : Bool :=
  c == ' ' || c == '\t' || c == '\n' || c == '\r' || c == '\x0b' || c == '\x0c'

/-- The number of glyphs of a comment to the end of its line. -/
def lineCommentSize (rest : List Glyph) : Nat :=
  let inside := rest.takeWhile fun glyph => !glyph.isPlain '\n'
  if inside.length < rest.length then inside.length + 1 else inside.length

def readPlain (verbose : Bool) (offset : Nat) (c : Char) (rest : List Glyph) : Reading Lexeme :=
  if c = '|' then .found 1 .alternation
  else if c = ')' then .found 1 .closing
  else if verbose && isVerboseBlank c then .found 1 .blank
  else if verbose && c == '#' then .found (1 + lineCommentSize rest) .blank
  else
    match c with
    | '.' => .found 1 .any
    | '^' => .found 1 (.anchor .lineStart)
    | '$' => .found 1 (.anchor .lineEnd)
    | '*' => readQuantifier 1 0 none rest
    | '+' => readQuantifier 1 1 none rest
    | '?' => readQuantifier 1 0 (some 1) rest
    | '(' => readOpening offset rest
    | '[' => readSet offset rest
    | '\x7b' => readBraces offset rest
    | c => .found 1 (.literal c.toNat)

def readLexeme (verbose : Bool) (offset : Nat) (glyph : Glyph) (rest : List Glyph) :
    Reading Lexeme :=
  if glyph.escaped then readEscape offset glyph.char rest
  else readPlain verbose offset glyph.char rest

/-- A lexeme, or what is wrong with it, with the offsets where it starts and stops. -/
structure Placed where
  start : Nat
  stop : Nat
  outcome : Except Refusal Lexeme

/-- Whether a lexeme is looked at before its last glyph is taken. -/
def Lexeme.seenEarly : Lexeme → Bool
  | .closing => true
  | .quantifier _ _ manner => manner != .greedy
  | _ => false

/-- Whether the verbose option is in force after a lexeme. -/
def Lexeme.verboseAfter (verbose : Bool) : Lexeme → Bool
  | .flags more => verbose || more.verbose
  | _ => verbose

def danglingFault (offset : Nat) : Refusal :=
  .malformed ⟨.danglingEscape, some offset⟩

/--
The lexemes of glyphs from an offset on.  `skip` glyphs belong to the lexeme
before; `dangling` tells that a lone backslash follows the glyphs.
-/
def lexemes (dangling : Bool) : (verbose : Bool) → (skip offset : Nat) → List Glyph → List Placed
  | _, _, offset, [] => if dangling then [⟨offset, offset, .error (danglingFault offset)⟩] else []
  | verbose, skip + 1, offset, glyph :: rest =>
      lexemes dangling verbose skip (offset + glyph.width) rest
  | verbose, 0, offset, glyph :: rest =>
      let reading := readLexeme verbose offset glyph rest
      let stop := offset + Glyph.totalWidth ((glyph :: rest).take reading.taken)
      let atEnd := dangling && decide (rest.length < reading.taken)
      match reading.outcome with
      | .error refusal =>
          [⟨offset, stop, .error (if atEnd then danglingFault stop else refusal)⟩]
      | .ok lexeme =>
          if atEnd && !lexeme.seenEarly then [⟨offset, stop, .error (danglingFault stop)⟩]
          else
            ⟨offset, stop, .ok lexeme⟩ ::
              lexemes dangling (lexeme.verboseAfter verbose) (reading.taken - 1)
                (offset + glyph.width) rest

end Regex

end Lexwork
