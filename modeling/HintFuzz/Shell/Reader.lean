import HintFuzz.Shell.Script

/-!
# Reading shell scripts

Words are read character by character, since quotation marks and expansions may
stand anywhere in them; commands are read by recursive descent, one token ahead.
A script is read line by line, so that a fault does not keep the lines above it
from being run.  The fuel of a reader is spent on steps into parts.
-/

namespace HintFuzz.Shell

/-- A fault, and the line at which it shows. -/
structure Misreading where
  line : Nat
  fault : SyntaxFault

/-- A token of a script. -/
inductive Token
  | finish
  | newline
  | operator (text : String)
  | redirect (descriptor : Option Nat) (operator : String)
  /-- A word; `quotes` tells whether anything in it is quoted. -/
  | word (word : Word) (quotes : Bool)
  | keyword (text : String)

/-- A document whose text has not been reached. -/
structure PendingDocument where
  number : Nat
  delimiter : List Char
  /-- Tabs at the start of its lines are left out. -/
  stripped : Bool
  expanded : Bool

/-- A text that is being read. -/
structure Source where
  text : List Char
  line : Nat
  /-- The token that was looked at and not taken. -/
  held : Option Token
  pending : List PendingDocument
  documents : Array Document
  aliases : List (Octets × Octets)
  /-- The aliases whose text is being read, with the length of the text behind. -/
  inUse : List (Octets × Nat)
  /-- The first word that ends closer to the end than this may be an alias wherever
  it stands. -/
  eager : Option Nat
  /-- It is the text of a document. -/
  isDocument : Bool

/-- What reads a text. -/
abbrev Reading := StateT Source (Except Misreading)

/-- A text to be read, from its first line on. -/
def Source.ofText (text : List Char) (documents : Array Document)
    (aliases : List (Octets × Octets)) : Source :=
  ⟨text, 1, none, [], documents, aliases, [], none, false⟩

namespace Reading

/-- Gives up.  Who has come to the end of a document has read its delimiter too. -/
def fail {α : Type} (fault : SyntaxFault) : Reading α := do
  let source ← get
  throw ⟨if source.isDocument && source.text.isEmpty then source.line + 1 else source.line, fault⟩

/-! ### Characters -/

/-- The character that opens and closes a script in the older style. -/
def backquote : Char := '\x60'

/-- Blanks between words. -/
def isSpace (c : Char) : Bool :=
  c = ' ' || c = '\t'

/-- Characters that end a word. -/
def endsWord (c : Char) : Bool :=
  isSpace c || "\n;&|<>()".toList.contains c

/-- Characters that a name may start with. -/
def startsName (c : Char) : Bool :=
  c.isAlpha || c = '_'

/-- Characters of a name. -/
def inName (c : Char) : Bool :=
  c.isAlphanum || c = '_'

/-- Whether a text is a name. -/
def isName (text : List Char) : Bool :=
  (text.head?.map startsName).getD false && text.all inName

/-- A text without the line ends at its start that a backslash takes away, and how
many there were. -/
def dropContinuations : List Char → List Char × Nat
  | '\\' :: '\n' :: rest =>
    let (rest, count) := dropContinuations rest
    (rest, count + 1)
  | text => (text, 0)

/-- Leaves out line ends that a backslash takes away. -/
def skipContinuations : Reading Unit := do
  let source ← get
  match source.text with
  | '\\' :: '\n' :: _ =>
    let (text, count) := dropContinuations source.text
    set { source with text, line := source.line + count }
  | _ => pure ()

/-- The next character, which is not taken. -/
def peek : Reading (Option Char) := do
  skipContinuations
  return (← get).text.head?

/-- Takes some characters as they stand. -/
def advance (count : Nat) : Reading Unit :=
  modify fun source =>
    { source with
      text := source.text.drop count
      line := source.line + (source.text.take count).count '\n' }

/-- Takes the characters at the front that have a property, as they stand. -/
def takeWhile (p : Char → Bool) : Reading (List Char) := do
  let front := (← get).text.takeWhile p
  advance front.length
  return front

/-- Takes the next character if it is the expected one. -/
def accept (expected : Char) : Reading Bool := do
  if (← peek) = some expected then
    advance 1
    return true
  else return false

/-- The rest of an operator that starts with `>`. -/
def outputOperator : Reading String := do
  if ← accept '>' then return ">>"
  else if ← accept '|' then return ">|"
  else if ← accept '&' then return ">&"
  else return ">"

/-- The rest of an operator that starts with `<`. -/
def inputOperator : Reading String := do
  if ← accept '<' then
    if ← accept '-' then return "<<-" else return "<<"
  else if ← accept '&' then return "<&"
  else if ← accept '>' then return "<>"
  else return "<"

/-! ### Words -/

/-- Puts a piece in front of others; plain texts next to one another are one. -/
def consPiece : Piece → List Piece → List Piece
  | .plain a, .plain b :: rest => .plain (a ++ b) :: rest
  | piece, rest => piece :: rest

/-- What ends a stretch between double quotation marks, or one that is read in the
same way. -/
inductive Stop
  | mark
  /-- The brace of an expansion; not inside of further quotation marks. -/
  | brace (inner : Bool)
  | finish
  /-- Two parentheses; as many single ones are open. -/
  | parentheses (depth : Nat)
deriving DecidableEq

/-- The name of a parameter between braces, or in front of anything else, taken
with the line ends in it left out. -/
def takeName (p : Char → Bool) : (fuel : Nat) → Reading (List Char)
  | 0 => pure []
  | fuel + 1 => do
    match ← peek with
    | some c =>
      if p c then
        advance 1
        return c :: (← takeName p fuel)
      else return []
    | none => return []

/-- The special parameters. -/
def isSpecial (c : Char) : Bool :=
  "@*#?$!-".toList.contains c || c.isDigit

/-- The form that stands behind the name of a parameter between braces, if any:
with whether an empty value counts as missing. -/
def readForm : Reading (Option (ParameterForm × Bool)) := do
  let named? (c : Option Char) : Option ParameterForm :=
    match c with
    | some '-' => some .orElse
    | some '=' => some .assign
    | some '+' => some .replaced
    | some '?' => some .required
    | _ => none
  match ← peek with
  | some '#' =>
    advance 1
    return some (if ← accept '#' then .dropLongestFront else .dropFront, false)
  | some '%' =>
    advance 1
    return some (if ← accept '%' then .dropLongestEnd else .dropEnd, false)
  | some ':' =>
    advance 1
    match named? (← peek) with
    | some form =>
      advance 1
      return some (form, true)
    | none => return none
  | c =>
    match named? c with
    | some form =>
      advance 1
      return some (form, false)
    | none => return none

/-- The script between two backquotes, from behind the first one on.  A backslash
quotes a dollar sign, a backquote or a backslash, and between double quotation
marks one of those too. -/
def untilBackquote (quoted : Bool) : List Char → Option (List Char × List Char)
  | [] => none
  | '\\' :: '\n' :: rest => untilBackquote quoted rest
  | '\\' :: c :: rest =>
    (untilBackquote quoted rest).map fun (script, rest) =>
      (if c = '$' ∨ c = '\\' ∨ c = backquote ∨ (quoted ∧ c = '"') then (c :: script, rest)
       else ('\\' :: c :: script, rest))
  | c :: rest =>
    if c = backquote then some ([], rest)
    else (untilBackquote quoted rest).map fun (script, rest) => (c :: script, rest)

/-! ### Tokens -/

/-- The words that mean something where a command may start. -/
def keywords : List String :=
  ["!", "case", "do", "done", "elif", "else", "esac", "fi", "for", "if", "in", "then", "until",
   "while", "\x7b", "\x7d"]

/-- A token as faults show it. -/
def shown : Token → String
  | .finish => "end of file"
  | .newline => "newline"
  | .operator text | .keyword text => "\"" ++ text ++ "\""
  | .redirect _ _ => "redirection"
  | .word _ _ => "word"

/-- The text of a word in which nothing is quoted and nothing is expanded. -/
def plainText? : Word → Option Octets
  | [.plain text] => some text
  | _ => none

/-- Takes blanks and comments. -/
def skipBlanks : (fuel : Nat) → Reading Unit
  | 0 => pure ()
  | fuel + 1 => do
    match ← peek with
    | some '#' =>
      let _ ← takeWhile (· ≠ '\n')
      skipBlanks fuel
    | some c =>
      if isSpace c then
        advance 1
        skipBlanks fuel
      else pure ()
    | none => pure ()

/-- The text of a document up to its delimiter, and the text behind.  Tabs in front
of lines are left out if it is stripped. -/
def documentText (delimiter : List Char) (stripped : Bool) :
    (fuel : Nat) → List Char → List Char × List Char
  | 0, text => ([], text)
  | _, [] => ([], [])
  | fuel + 1, text =>
    let text := if stripped then text.dropWhile (· = '\t') else text
    let line := text.takeWhile (· ≠ '\n')
    let behind := text.drop line.length
    if line = delimiter then ([], behind.drop 1)
    else
      match behind with
      | [] => (line, [])
      | feed :: behind =>
        let (body, rest) := documentText delimiter stripped fuel behind
        (line ++ feed :: body, rest)

/-- What the reader of the next token looks out for. -/
structure Watch where
  /-- Line ends are passed over. -/
  lines : Bool
  keywords : Bool
  aliases : Bool

namespace Watch

/-- Nothing but tokens. -/
def none : Watch := ⟨false, false, false⟩

/-- The start of a command, perhaps below line ends. -/
def command : Watch := ⟨true, true, true⟩

/-- The start of a command on the same line. -/
def here : Watch := ⟨false, true, true⟩

/-- A word that may be an alias. -/
def aliasOnly : Watch := ⟨false, false, true⟩

/-- A keyword below line ends. -/
def keyword : Watch := ⟨true, true, false⟩

end Watch

/-- Puts a token back. -/
def hold (token : Token) : Reading Unit :=
  modify fun source => { source with held := some token }

/-- Gives up at a token, in whose place another one belongs. -/
def unexpected {α : Type} (token : Token) (expected : Option Token) : Reading α :=
  fail (.unexpected (shown token) (expected.map shown))

/-- An assignment that a word makes: its name and the word behind it. -/
def assignment? : Word → Option (Octets × Word)
  | .plain text :: rest =>
    let name := text.toList.takeWhile (· ≠ '=')
    match text.toList.drop name.length with
    | '=' :: value =>
      if isName name then
        some (String.ofList name,
          if value.isEmpty then rest else .plain (String.ofList value) :: rest)
      else none
    | _ => none
  | _ => none

/-- The names that no function may have, since the shell itself needs them. -/
def specialNames : List String :=
  [".", ":", "break", "continue", "eval", "exec", "exit", "export", "readonly", "return", "set",
   "shift", "times", "trap", "unset"]

/-- Whether a token ends a list of commands. -/
def endsList : Token → Bool
  | .finish => true
  | .operator text => text = ")" || text = ";;"
  | .keyword text => ["do", "done", "elif", "else", "esac", "fi", "then", "\x7d"].contains text
  | _ => false

/-- The text of the word that comes next without its quotation marks, and whether
it had any. -/
def delimiterOf : (fuel : Nat) → Reading (List Char × Bool)
  | 0 => return ([], false)
  | fuel + 1 => do
    match ← peek with
    | some '\\' =>
      advance 1
      let c := (← get).text.take 1
      advance 1
      let (rest, _) ← delimiterOf fuel
      return (c ++ rest, true)
    | some c =>
      if c = '\'' ∨ c = '"' then
        advance 1
        let inner ← takeWhile (· ≠ c)
        if (← get).text.isEmpty then fail .unterminatedQuote
        advance 1
        let (rest, _) ← delimiterOf fuel
        return (inner ++ rest, true)
      else if endsWord c then return ([], false)
      else
        advance 1
        let (rest, quotes) ← delimiterOf fuel
        return (c :: rest, quotes)
    | none => return ([], false)

/-- Two scripts one after the other. -/
def join (first : Script) : Script → Script
  | .nothing => first
  | second => .sequence first second

mutual

/-- The pieces of a word up to a character that ends it; or, between braces, up to
the closing one. -/
def readPieces : (fuel : Nat) → (braces : Bool) → Reading (List Piece × Bool)
  | 0, _ => fail .missingBrace
  | fuel + 1, braces => do
    let goOn (pieces : List Piece) (quotes : Bool) : Reading (List Piece × Bool) := do
      let (rest, further) ← readPieces fuel braces
      return (pieces.foldr consPiece rest, quotes || further)
    match ← peek with
    | none => return ([], false)
    | some '\\' =>
      advance 1
      match (← get).text with
      | c :: _ =>
        advance 1
        goOn [.quoted (String.singleton c)] true
      | [] => goOn [.quoted "\\"] true
    | some '\'' =>
      advance 1
      let inner ← takeWhile (· ≠ '\'')
      if (← get).text.isEmpty then fail .unterminatedQuote
      else
        advance 1
        goOn [.quoted (String.ofList inner)] true
    | some '"' =>
      advance 1
      let inner ← readQuoted fuel .mark
      advance 1
      let isArguments : Bool := match inner with
        | [.parameter "@" .plain _ _ _] => true
        | _ => false
      goOn (if isArguments then inner else .quoted "" :: inner) true
    | some '$' =>
      advance 1
      goOn [← readExpansion fuel false] false
    | some c =>
      if c = backquote then
        advance 1
        goOn [← readOlder fuel false] false
      else if braces ∧ c = '\x7d' then return ([], false)
      else if !braces ∧ endsWord c then return ([], false)
      else
        advance 1
        let others ← takeWhile fun c =>
          !(endsWord c || c = backquote || "\\'\"$\x7d".toList.contains c)
        goOn [.plain (String.ofList (c :: others))] false

/-- The pieces of a stretch between double quotation marks, from behind the first
one on up to what ends it. -/
def readQuoted : (fuel : Nat) → (stop : Stop) → Reading (List Piece)
  | 0, _ => fail .unterminatedQuote
  | fuel + 1, stop => do
    let goOn (piece : Piece) (stop : Stop) : Reading (List Piece) := do
      return piece :: (← readQuoted fuel stop)
    let inBraces := match stop with
      | .brace _ => true
      | _ => false
    match ← peek with
    | none =>
      match stop with
      | .finish => return []
      | .parentheses _ => fail .missingParentheses
      | .brace _ => if (← get).isDocument then fail .missingBrace else fail .unterminatedQuote
      | .mark => fail .unterminatedQuote
    | some '\\' =>
      advance 1
      match (← get).text with
      | [] => goOn (.quoted "\\") stop
      | c :: _ =>
        advance 1
        let plain := c = '$' || c = '\\' || c = backquote || (c = '"' && stop ≠ .finish) ||
          (c = '\x7d' && inBraces)
        goOn (.quoted (String.ofList (if plain then [c] else ['\\', c]))) stop
    | some '$' =>
      advance 1
      goOn (← readExpansion fuel true) stop
    | some c =>
      if c = backquote then
        advance 1
        goOn (← readOlder fuel true) stop
      else
        match stop, c with
        | .mark, '"' => return []
        | .brace inner, '"' =>
          advance 1
          goOn (.quoted "") (.brace !inner)
        | .brace false, '\x7d' => return []
        | .parentheses depth, '(' =>
          advance 1
          goOn (.quoted "(") (.parentheses (depth + 1))
        | .parentheses 0, ')' =>
          advance 1
          if ← accept ')' then return [] else goOn (.quoted ")") stop
        | .parentheses (depth + 1), ')' =>
          advance 1
          goOn (.quoted ")") (.parentheses depth)
        | _, c =>
          advance 1
          let others ← takeWhile fun c => c != backquote && !"\\\"$\x7d()".toList.contains c
          goOn (.quoted (String.ofList (c :: others))) stop

/-- An expansion, from behind its dollar sign on. -/
def readExpansion : (fuel : Nat) → (quoted : Bool) → Reading Piece
  | 0, _ => fail .missingBrace
  | fuel + 1, quoted => do
    match ← peek with
    | some '(' =>
      advance 1
      if ← accept '(' then
        return .arithmetic (← readQuoted fuel (.parentheses 0)) quoted
      else
        let before ← get
        set { before with pending := [], held := none }
        let body ← readList fuel false true
        let token ← readToken fuel Watch.none
        match token with
        | .operator ")" =>
          modify fun source => { source with pending := before.pending, held := none }
          return .output body quoted
        | token => unexpected token (some (.operator ")"))
    | some '\x7b' =>
      advance 1
      readBraces fuel quoted
    | some c =>
      if startsName c then
        return .parameter (String.ofList (← takeName inName (← get).text.length)) .plain false
          quoted []
      else if isSpecial c then
        advance 1
        return .parameter (String.singleton c) .plain false quoted []
      else return if quoted then .quoted "$" else .plain "$"
    | none => return if quoted then .quoted "$" else .plain "$"

/-- An expansion between braces, from behind the opening one on. -/
def readBraces : (fuel : Nat) → (quoted : Bool) → Reading Piece
  | 0, _ => fail .missingBrace
  | fuel + 1, quoted => do
    let length := (← get).text.length
    let operand (name : Octets) (form : ParameterForm) (orEmpty : Bool) : Reading Piece := do
      let trims := [.dropFront, .dropLongestFront, .dropEnd, .dropLongestEnd].contains form
      let pieces ←
        if quoted && !trims then readQuoted fuel (.brace false)
        else Prod.fst <$> readPieces fuel true
      if ← accept '\x7d' then return .parameter name form orEmpty quoted pieces
      else fail .missingBrace
    let afterName (name : Octets) : Reading Piece := do
      if ← accept '\x7d' then return .parameter name .plain false quoted []
      else
        let before ← get
        match ← readForm with
        | some (form, orEmpty) => operand name form orEmpty
        | none =>
          -- The character counts as an operator, even if it ends the line.
          set { before with text := before.text.drop 1 }
          operand name .unknown false
    match ← peek with
    | none => fail .missingBrace
    | some '#' =>
      advance 1
      match ← peek with
      | some c =>
        if startsName c ∨ c.isDigit then
          let name ← takeName (if c.isDigit then Char.isDigit else inName) length
          if ← accept '\x7d' then
            return .parameter (String.ofList name) .length false quoted []
          else operand "#" .unknown false
        else
          -- A further special parameter in front of the brace is measured.
          let before ← get
          advance 1
          if c ≠ '\x7d' ∧ isSpecial c ∧ (← accept '\x7d') then
            return .parameter (String.singleton c) .length false quoted []
          else
            set before
            afterName "#"
      | none => fail .missingBrace
    | some c =>
      if startsName c then afterName (String.ofList (← takeName inName length))
      else if c.isDigit then afterName (String.ofList (← takeName Char.isDigit length))
      else if isSpecial c then
        advance 1
        afterName (String.singleton c)
      else operand "" .unknown false

/-- What a script between backquotes writes, from behind the first one on. -/
def readOlder : (fuel : Nat) → (quoted : Bool) → Reading Piece
  | 0, _ => fail .unterminatedBackquote
  | fuel + 1, quoted => do
    let source ← get
    match untilBackquote quoted source.text with
    | none =>
      advance source.text.length
      fail .unterminatedBackquote
    | some (script, rest) =>
      let inner : Source := { Source.ofText script source.documents source.aliases with
        inUse := source.inUse }
      match (readList fuel false true).run inner with
      | .error misreading => throw misreading
      | .ok (body, after) =>
        let taken := source.text.length - rest.length
        set { source with
          text := rest
          line := source.line + (source.text.take taken).count '\n'
          documents := after.documents }
        return .output body quoted

/-- A word, or a redirection if that is what the word is the start of. -/
def readWordToken : (fuel : Nat) → Reading Token
  | 0 => fail .missingBrace
  | fuel + 1 => do
    let (word, quotes) ← readPieces fuel false
    match ← peek, plainText? word, word.isEmpty with
    | some c, text, empty =>
      let digit? := text.bind fun text => match text.toList with
        | [d] => if d.isDigit then some (d.toNat - 48) else none
        | _ => none
      if (c = '<' ∨ c = '>') ∧ !quotes ∧ (empty ∨ digit?.isSome) then
        advance 1
        let operator ← if c = '>' then outputOperator else inputOperator
        return .redirect digit? operator
      else return .word word quotes
    | none, _, _ => return .word word quotes

/-- The next token as it stands. -/
def readRaw : (fuel : Nat) → Reading Token
  | 0 => return .finish
  | fuel + 1 => do
    let source ← get
    match source.held with
    | some token =>
      set { source with held := none }
      return token
    | none =>
      skipBlanks (source.text.length + 1)
      match ← peek with
      | none => return .finish
      | some '\n' =>
        advance 1
        return .newline
      | some '&' =>
        advance 1
        return .operator (if ← accept '&' then "&&" else "&")
      | some '|' =>
        advance 1
        return .operator (if ← accept '|' then "||" else "|")
      | some ';' =>
        advance 1
        return .operator (if ← accept ';' then ";;" else ";")
      | some '(' =>
        advance 1
        return .operator "("
      | some ')' =>
        advance 1
        return .operator ")"
      | some _ => readWordToken fuel

/-- Takes the texts of the documents that were announced on the line that has just
ended. -/
def readDocuments : (fuel : Nat) → Reading Unit
  | 0 => pure ()
  | fuel + 1 => do
    let source ← get
    match source.pending with
    | [] => pure ()
    | first :: others =>
      let (body, rest) :=
        documentText first.delimiter first.stripped (source.text.length + 1) source.text
      let taken := (source.text.take (source.text.length - rest.length)).count '\n'
      if first.expanded then
        let inner : Source := { Source.ofText body source.documents source.aliases with
          line := source.line
          isDocument := true }
        match (readQuoted fuel .finish).run inner with
        | .error misreading => throw misreading
        | .ok (pieces, after) =>
          set { source with
            text := rest
            line := source.line + taken
            pending := others
            documents := after.documents.set! first.number (.expanded pieces) }
      else
        set { source with
          text := rest
          line := source.line + taken
          pending := others
          documents := source.documents.set! first.number (.plain (String.ofList body)) }
      readDocuments fuel

/-- The next token, with keywords and aliases as they are looked out for. -/
def readToken : (fuel : Nat) → Watch → Reading Token
  | 0, _ => return .finish
  | fuel + 1, watch => do
    let token ← readRaw fuel
    match token with
    | .newline =>
      if watch.lines then
        readDocuments fuel
        readToken fuel watch
      else return token
    | .word word false =>
      match plainText? word with
      | none => return token
      | some text =>
        let source ← get
        let isEager := source.eager.any fun length => source.text.length < length
        let source := { source with eager := if isEager then none else source.eager }
        set source
        if watch.keywords ∧ keywords.contains text then return .keyword text
        else if watch.aliases ∨ isEager then
          let busy := source.inUse.any fun (name, length) =>
            name = text && length ≤ source.text.length
          match if busy then none else source.aliases.find? fun entry => entry.1 = text with
          | some (_, value) =>
            let behind := source.text.length
            let live := source.inUse.filter fun (_, length) => length ≤ behind
            set { source with
              text := value.toList ++ source.text
              inUse := (text, behind) :: live
              eager := if value.toList.getLast?.any isSpace then some behind else source.eager }
            readToken fuel watch
          | none => return token
        else return token
    | _ => return token

/-- The target of a redirection whose operator has been read. -/
def readTarget : (fuel : Nat) → (descriptor : Option Nat) → (operator : String) → Reading Redirect
  | 0, _, _ => fail .missingBrace
  | fuel + 1, descriptor, operator => do
    let target : Reading (Word × Bool) := do
      match ← readToken fuel Watch.none with
      | .word word quotes => return (word, quotes)
      | token => unexpected token none
    match operator with
    | ">" => return .file (descriptor.getD 1) .write (← target).1
    | ">|" => return .file (descriptor.getD 1) .overwrite (← target).1
    | ">>" => return .file (descriptor.getD 1) .append (← target).1
    | "<" => return .file (descriptor.getD 0) .read (← target).1
    | "<>" => return .file (descriptor.getD 0) .update (← target).1
    | ">&" => return .duplicate (descriptor.getD 1) (← target).1
    | "<&" => return .duplicate (descriptor.getD 0) (← target).1
    | _ =>
      -- Nothing is expanded in a delimiter, so it is taken as it is written.
      skipBlanks ((← get).text.length + 1)
      let (delimiter, quotes) ← delimiterOf (← get).text.length
      if delimiter.isEmpty ∧ !quotes then unexpected (← readToken fuel Watch.none) none
      else
        let source ← get
        let number := source.documents.size
        set { source with
          documents := source.documents.push (.plain "")
          pending := source.pending ++
            [PendingDocument.mk number delimiter (operator = "<<-") (!quotes)] }
        return .document (descriptor.getD 0) number

/-- Redirections behind a command. -/
def readRedirects : (fuel : Nat) → Reading (List Redirect)
  | 0 => return []
  | fuel + 1 => do
    match ← readToken fuel Watch.here with
    | .redirect descriptor operator =>
      let redirect ← readTarget fuel descriptor operator
      return redirect :: (← readRedirects fuel)
    | token =>
      hold token
      return []

/-- A simple command or the definition of a function. -/
def readSimple : (fuel : Nat) → (line : Nat) → (assignments : List (Octets × Word)) →
    (words : List Word) → (redirects : List Redirect) → Reading Script
  | 0, _, _, _, _ => return .nothing
  | fuel + 1, line, assignments, words, redirects => do
    let token ← readToken fuel (if words.isEmpty then Watch.aliasOnly else Watch.none)
    match token with
    | .word word _ =>
      match if words.isEmpty then assignment? word else none with
      | some assignment =>
        readSimple fuel line (assignments ++ [assignment]) words redirects
      | none => readSimple fuel line assignments (words ++ [word]) redirects
    | .redirect descriptor operator =>
      let redirect ← readTarget fuel descriptor operator
      readSimple fuel line assignments words (redirects ++ [redirect])
    | token =>
      match token, assignments, words, redirects with
      | .operator "(", [], [name], [] =>
        match ← readToken fuel Watch.none with
        | .operator ")" =>
          match plainText? name with
          | some text =>
            if isName text.toList ∧ !specialNames.contains text then
              let body ← readBodyOf fuel
              return .define line text body
            else fail .badFunctionName
          | none => fail .badFunctionName
        | token => unexpected token (some (.operator ")"))
      | token, _, _, _ =>
        hold token
        return .simple line assignments words redirects

/-- The command that the name of a function stands for. -/
def readBodyOf : (fuel : Nat) → Reading Script
  | 0 => return .nothing
  | fuel + 1 => do
    hold (← readToken fuel Watch.command)
    readCommand fuel

/-- Takes a token that must come next. -/
def expect : (fuel : Nat) → Watch → Token → Reading Unit
  | 0, _, _ => pure ()
  | fuel + 1, watch, expected => do
    let token ← readToken fuel watch
    if shown token = shown expected then pure () else unexpected token (some expected)

/-- One command. -/
def readCommand : (fuel : Nat) → Reading Script
  | 0 => return .nothing
  | fuel + 1 => do
    let token ← readToken fuel Watch.none
    let line := (← get).line
    let finish (body : Script) : Reading Script := do
      match ← readRedirects fuel with
      | [] => return body
      | redirects =>
        match body with
        | .subshell line body _ => return .subshell line body redirects
        | body => return .redirected line body redirects
    let between (expected : Token) : Reading Script := do
      let body ← readList fuel false false
      expect fuel Watch.none expected
      return body
    match token with
    | .operator "(" => finish (.subshell line (← between (.operator ")")) [])
    | .keyword "\x7b" => finish (← between (.keyword "\x7d"))
    | .keyword "if" =>
      let body ← readBranch fuel
      finish body
    | .keyword "while" =>
      let condition ← between (.keyword "do")
      finish (.loop false condition (← between (.keyword "done")))
    | .keyword "until" =>
      let condition ← between (.keyword "do")
      finish (.loop true condition (← between (.keyword "done")))
    | .keyword "for" =>
      match ← readToken fuel Watch.none with
      | .word word false =>
        match plainText? word with
        | none => fail .badLoopVariable
        | some name =>
          if !isName name.toList then fail .badLoopVariable
          else
            let words ← match ← readToken fuel Watch.command with
              | .keyword "in" => some <$> readWords fuel
              | .operator ";" => pure none
              | token =>
                hold token
                pure none
            expect fuel Watch.command (.keyword "do")
            finish (.each line name words (← between (.keyword "done")))
      | _ => fail .badLoopVariable
    | .keyword "case" =>
      match ← readToken fuel Watch.none with
      | .word subject _ =>
        expect fuel Watch.command (.keyword "in")
        let arms ← readArms fuel
        finish (.select line subject arms)
      | token => unexpected token (some (.word [] false))
    | .word _ _ | .redirect _ _ =>
      hold token
      readSimple fuel line [] [] []
    | token => unexpected token none

/-- The words of a loop, up to the end of the line. -/
def readWords : (fuel : Nat) → Reading (List Word)
  | 0 => return []
  | fuel + 1 => do
    match ← readToken fuel Watch.none with
    | .word word _ => return word :: (← readWords fuel)
    | .newline =>
      readDocuments fuel
      return []
    | .operator ";" => return []
    | token => unexpected token none

/-- A branch, from behind its first word on. -/
def readBranch : (fuel : Nat) → Reading Script
  | 0 => return .nothing
  | fuel + 1 => do
    let condition ← readList fuel false false
    expect fuel Watch.none (.keyword "then")
    let yes ← readList fuel false false
    match ← readToken fuel Watch.none with
    | .keyword "elif" => return .branch condition yes (← readBranch fuel)
    | .keyword "else" =>
      let no ← readList fuel false false
      expect fuel Watch.none (.keyword "fi")
      return .branch condition yes no
    | .keyword "fi" => return .branch condition yes .nothing
    | token => unexpected token (some (.keyword "fi"))

/-- The arms of a selection, up to the word that closes it. -/
def readArms : (fuel : Nat) → Reading (List (List Word × Script))
  | 0 => return []
  | fuel + 1 => do
    match ← readToken fuel Watch.keyword with
    | .keyword "esac" => return []
    | .operator "(" => readArm fuel (← readToken fuel Watch.none)
    | token => readArm fuel token

/-- An arm that starts with a token, and the arms behind it. -/
def readArm : (fuel : Nat) → Token → Reading (List (List Word × Script))
  | 0, _ => return []
  | fuel + 1, first => do
    let patterns ← readPatterns fuel first
    let body ← readList fuel false true
    match ← readToken fuel Watch.keyword with
    | .keyword "esac" => return [(patterns, body)]
    | .operator ";;" => return (patterns, body) :: (← readArms fuel)
    | token => unexpected token (some (.operator ";;"))

/-- The patterns of an arm, up to the parenthesis behind them. -/
def readPatterns : (fuel : Nat) → Token → Reading (List Word)
  | 0, _ => return []
  | fuel + 1, first => do
    let pattern : Word := match first with
      | .word word _ => word
      | .keyword text => [.plain text]
      | _ => []
    match ← readToken fuel Watch.none with
    | .operator "|" => return pattern :: (← readPatterns fuel (← readToken fuel Watch.none))
    | .operator ")" => return [pattern]
    | token => unexpected token (some (.operator ")"))

/-- Pipelines with conditions between them. -/
def readChain : (fuel : Nat) → Reading Script
  | 0 => return .nothing
  | fuel + 1 => do
    let first ← readPipeline fuel
    readChainAfter fuel first

/-- What a chain of pipelines goes on with. -/
def readChainAfter : (fuel : Nat) → Script → Reading Script
  | 0, first => return first
  | fuel + 1, first => do
    match ← readToken fuel Watch.none with
    | .operator "&&" =>
      hold (← readToken fuel Watch.command)
      let second ← readPipeline fuel
      readChainAfter fuel (.both first second)
    | .operator "||" =>
      hold (← readToken fuel Watch.command)
      let second ← readPipeline fuel
      readChainAfter fuel (.either first second)
    | token =>
      hold token
      return first

/-- Commands with pipes between them. -/
def readPipeline : (fuel : Nat) → Reading Script
  | 0 => return .nothing
  | fuel + 1 => do
    match ← readToken fuel Watch.none with
    | .keyword "!" =>
      hold (← readToken fuel Watch.here)
      return .negated (← readPipes fuel)
    | token =>
      hold token
      readPipes fuel

/-- The commands of a pipeline. -/
def readPipes : (fuel : Nat) → Reading Script
  | 0 => return .nothing
  | fuel + 1 => do
    let first ← readCommand fuel
    match ← readToken fuel Watch.none with
    | .operator "|" =>
      hold (← readToken fuel Watch.command)
      match ← readPipes fuel with
      | .pipeline others => return .pipeline (first :: others)
      | other => return .pipeline [first, other]
    | token =>
      hold token
      return first

/-- Commands up to the end of the line if it is the `outermost` list, or up to what
ends a list.  Only a list that may be `empty` may have no commands. -/
def readList : (fuel : Nat) → (outermost empty : Bool) → Reading Script
  | 0, _, _ => return .nothing
  | fuel + 1, outermost, empty => do
    let token ← readToken fuel (if outermost then Watch.here else Watch.command)
    match token with
    | .newline =>
      readDocuments fuel
      return .nothing
    | .finish =>
      readDocuments fuel
      hold .finish
      return .nothing
    | token =>
      hold token
      if !outermost ∧ empty ∧ endsList token then return .nothing
      else
        let first ← readChain fuel
        let next ← readToken fuel Watch.none
        let (first, next) ← match next with
          | .operator "&" => do
            let line := (← get).line
            pure (Script.background line first, next)
          | next => pure (first, next)
        match next with
        | .finish =>
          readDocuments fuel
          hold .finish
          return first
        | .newline =>
          if outermost then
            readDocuments fuel
            return first
          else
            hold next
            return join first (← readList fuel outermost true)
        | .operator "&" | .operator ";" => return join first (← readList fuel outermost true)
        | next =>
          if outermost then unexpected next none
          else
            hold next
            return first

end

end Reading

/-- The next commands of a text, up to the end of a line: none at the end of the
text. -/
def Source.next (source : Source) : Except Misreading (Option Script × Source) :=
  let longest := source.aliases.foldl (fun length entry => length + entry.2.length) 0
  let fuel := 16 * (source.text.length + 1) * (longest + 1) + 64
  let atEnd := source.text.isEmpty && source.held.isNone
  if atEnd then .ok (none, source)
  else
    match (Reading.readList fuel true true).run { source with pending := [], held := none } with
    | .error misreading => .error misreading
    | .ok (script, after) => .ok (some script, { after with held := none })

end HintFuzz.Shell
