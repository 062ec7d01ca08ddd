import Assay.Sandbox.Shell.Script

/-!
Reading shell scripts, one complete command at a time.
-/

namespace Assay.Sandbox.Shell

/-- Where a script cannot be understood, and why. -/
structure Misread where
  line : Nat
  message : String
  deriving DecidableEq, Repr

/-- What is left of a script. -/
structure Place where
  rest : Octets
  line : Nat
  /-- Lines of here documents that were taken out of the rest before their time. -/
  skipped : Nat
  deriving Repr

abbrev Read := StateT Place (Except Misread)

namespace Read

def rest : Read Octets := return (← get).rest

def fail {α : Type} (message : String) : Read α := do
  throw ⟨(← get).line, message⟩

/-- Pass over octets and count the lines among them. -/
def advance (count : Nat) : Read Unit :=
  modify fun p =>
    let newlines := ((p.rest.take count).filter (· == '\n')).length
    { rest := p.rest.drop count
      line := p.line + newlines + (if newlines = 0 then 0 else p.skipped)
      skipped := if newlines = 0 then p.skipped else 0 }

def startsWith (s : String) : Read Bool := return s.toList.isPrefixOf (← rest)

/-- Pass over a text if it comes next. -/
def accept (s : String) : Read Bool := do
  if ← startsWith s then
    advance s.length
    return true
  return false

end Read

open Read

/-- Octets that end a word. -/
def isMeta (c : Char) : Bool :=
  c == ' ' || c == '\t' || c == '\n' || c == ';' || c == '&' || c == '|' || c == '<' || c == '>' ||
    c == '(' || c == ')'

def isNameStart (c : Char) : Bool := c.isAlpha || c == '_'

def isNameChar (c : Char) : Bool := c.isAlphanum || c == '_'

def isName (cs : Octets) : Bool := (cs.head?.any isNameStart) && cs.all isNameChar

/-- Parameters whose name is one special octet. -/
def isSpecial (c : Char) : Bool := ['@', '*', '#', '?', '-', '$', '!'].contains c

def keywords : List String :=
  ["!", "case", "do", "done", "elif", "else", "esac", "fi", "for", "if", "in", "then", "until",
    "while", "\x7b", "\x7d"]

/-- Pass over blanks, joined lines and comments. -/
def skipBlanks : Nat → Read Unit
  | 0 => return
  | fuel + 1 => do
    match ← rest with
    | ' ' :: _ => advance 1; skipBlanks fuel
    | '\t' :: _ => advance 1; skipBlanks fuel
    | '\\' :: '\n' :: _ => advance 2; skipBlanks fuel
    | '#' :: cs => advance (1 + (cs.takeWhile (· != '\n')).length)
    | _ => return

def blanks : Read Unit := do skipBlanks ((← rest).length + 1)

/-- Pass over blanks and line ends. -/
def skipLines : Nat → Read Unit
  | 0 => return
  | fuel + 1 => do
    blanks
    if ← accept "\n" then skipLines fuel

def newlines : Read Unit := do skipLines ((← rest).length + 1)

/-- The plain word that comes next, if it is a keyword. -/
def peekKeyword : Read (Option String) := do
  let cs ← rest
  let word := cs.takeWhile fun c => !isMeta c
  let s := String.ofList word
  return if keywords.contains s then some s else none

/-- How a message names what comes next; `command` tells that a keyword could stand here. -/
def describeNext (command : Bool) : Read String := do
  if command then
    if let some s ← peekKeyword then return s!"\"{s}\""
  match ← rest with
  | [] => return "end of file"
  | '\n' :: _ => return "newline"
  | ';' :: ';' :: _ => return "\";;\""
  | ';' :: _ => return "\";\""
  | '&' :: '&' :: _ => return "\"&&\""
  | '&' :: _ => return "\"&\""
  | '|' :: '|' :: _ => return "\"||\""
  | '|' :: _ => return "\"|\""
  | '(' :: _ => return "\"(\""
  | ')' :: _ => return "\")\""
  | '<' :: _ => return "redirection"
  | '>' :: _ => return "redirection"
  | _ => return "word"

def inQuotes (s : String) : String := "\"" ++ s ++ "\""

def unexpected {α : Type} (command : Bool) (expected : Option String) : Read α := do
  let found ← describeNext command
  match expected with
  | none => fail (found ++ " unexpected")
  | some e => fail (found ++ " unexpected (expecting " ++ e ++ ")")

/-- Pass over a keyword that has to come next. -/
def expectKeyword (s : String) : Read Unit := do
  newlines
  if (← peekKeyword) == some s then advance s.length
  else unexpected true (some (inQuotes s))

/-- The text between single quotes, whose first quote has been read. -/
def readSingleQuoted : Read Octets := do
  let cs ← rest
  let text := cs.takeWhile (· != '\'')
  if text.length = cs.length then fail "Unterminated quoted string"
  advance (text.length + 1)
  return text

/-- The text between backquotes, whose first one has been read; some backslashes are dropped. -/
def readBackquoted (quoted : Bool) : Nat → Octets → Octets → Option (Octets × Nat)
  | 0, _, _ => none
  | _ + 1, _, [] => none
  | fuel + 1, text, c :: cs =>
    match c, cs with
    | '\x60', _ => some (text.reverse, 1)
    | '\\', d :: rest =>
      let kept := if d == '$' || d == '\x60' || d == '\\' || (quoted && d == '"') then d :: text
        else d :: '\\' :: text
      (readBackquoted quoted fuel kept rest).map fun (t, n) => (t, n + 2)
    | c, cs => (readBackquoted quoted fuel (c :: text) cs).map fun (t, n) => (t, n + 1)

/-- Where a run of pieces stands. -/
inductive Context where
  /-- A word of a command. -/
  | word
  /-- Between double quotes. -/
  | quotes
  /-- A here document. -/
  | document
  /-- The word of a parameter in braces, inside double quotes or not. -/
  | braces (quoted : Bool)
  /-- An arithmetic expression, with its open parentheses. -/
  | expression (depth : Nat)
  deriving DecidableEq

namespace Context

/-- Whether pieces are quoted as a whole. -/
def isQuoted : Context → Bool
  | .word => false
  | .braces quoted => quoted
  | _ => true

/-- Whether the run ends before an octet. -/
def ends (context : Context) (cs : Octets) : Bool :=
  match context, cs with
  | .word, c :: _ => isMeta c
  | .quotes, c :: _ => c == '"'
  | .braces _, c :: _ => c == '\x7d'
  | .expression 0, ')' :: _ => true
  | _, _ => false

/-- Whether a backslash quotes an octet. -/
def escapes (context : Context) (c : Char) : Bool :=
  match context with
  | .word => true
  | .braces false => true
  | .document => c == '$' || c == '\x60' || c == '\\' || c == '\n'
  | _ => c == '$' || c == '\x60' || c == '\\' || c == '"' || c == '\n' || c == '\x7d'

end Context

/-- Add an octet to the pieces read so far, the last one first. -/
def addOctet (c : Char) (quoted : Bool) : List Piece → List Piece
  | .literal text q :: pieces =>
    if q == quoted then .literal (c :: text) q :: pieces else .literal [c] quoted :: .literal text q :: pieces
  | pieces => .literal [c] quoted :: pieces

/-- Literals are collected backward. -/
def settlePieces (pieces : List Piece) : List Piece :=
  pieces.reverse.map fun
    | .literal text quoted => .literal text.reverse quoted
    | p => p

/-- The assignment that a word makes. -/
def assignment? : Word → Option (Octets × Word)
  | .literal text false :: pieces =>
    let name := text.takeWhile (· != '=')
    match text.dropWhile (· != '=') with
    | _ :: value =>
      if !isName name then none
      else if value.isEmpty then some (name, pieces)
      else
        match value with
        | ['~'] => if pieces.isEmpty then some (name, [.home]) else some (name, .literal value false :: pieces)
        | '~' :: '/' :: path => some (name, .home :: .literal ('/' :: path) false :: pieces)
        | value => some (name, .literal value false :: pieces)
    | [] => none
  | _ => none

/-- A tilde at the start of a word. -/
def withHome : Word → Word
  | .literal ['~'] false :: [] => [.home]
  | .literal ('~' :: '/' :: path) false :: pieces => .home :: .literal ('/' :: path) false :: pieces
  | word => word

/-- The text of a word, its quotes gone, and whether there were any. -/
def delimiterOf (word : Word) : Octets × Bool :=
  (word.flatMap fun
      | .literal text _ => text
      | .parameter name _ _ => '$' :: name
      | .home => ['~']
      | _ => [],
    word.any fun
      | .literal _ quoted => quoted
      | _ => false)

/-- The body of a here document at the front of a text, and what comes after it. -/
def takeDocument (delimiter : Octets) (tabs : Bool) : List Octets → List Octets × List Octets
  | [] => ([], [])
  | line :: rest =>
    let line := if tabs then line.dropWhile (· == '\t') else line
    if line = delimiter then ([], rest)
    else
      let (body, after) := takeDocument delimiter tabs rest
      (line :: body, after)

/-- Take the body of a here document, which begins on the next line. -/
def readDocument (delimiter : Octets) (tabs : Bool) : Read Octets := do
  let p ← get
  let line := p.rest.takeWhile (· != '\n')
  let after := (p.rest.drop line.length).drop 1
  let lines := Octets.splitAt '\n' after
  let (body, remaining) := takeDocument delimiter tabs lines
  let taken := lines.length - remaining.length
  set { p with
    rest := line ++ (if p.rest.length = line.length then [] else '\n' :: Octets.join ['\n'] remaining)
    skipped := p.skipped + taken }
  return if body.length < lines.length then Octets.unlines body else Octets.join ['\n'] body

mutual

/-- Read pieces up to the end of their run. -/
def readPieces : Nat → Context → List Piece → Read (List Piece)
  | 0, _, _ => fail "nested too deeply"
  | fuel + 1, context, pieces => do
    let quoted := context.isQuoted
    let cs ← rest
    if context.ends cs then return settlePieces pieces
    match cs with
    | [] =>
      match context with
      | .word => return settlePieces pieces
      | .document => return settlePieces pieces
      | .quotes => fail "Unterminated quoted string"
      | .braces true => fail "Unterminated quoted string"
      | .braces false => fail "Missing '\x7d'"
      | .expression _ => fail "Missing '))'"
    | '\\' :: '\n' :: _ =>
      advance 2
      readPieces fuel context pieces
    | '\\' :: c :: _ =>
      if context.escapes c then
        advance 2
        readPieces fuel context (addOctet c true pieces)
      else
        advance 1
        readPieces fuel context (addOctet '\\' quoted pieces)
    | '$' :: _ =>
      advance 1
      let piece ← readDollar fuel quoted
      readPieces fuel context (piece :: pieces)
    | '\x60' :: _ =>
      advance 1
      match readBackquoted quoted ((← rest).length + 1) [] (← rest) with
      | none => fail "EOF in backquote substitution"
      | some (text, length) =>
        let line := (← get).line
        advance length
        let after ← get
        set (⟨text, line, 0⟩ : Place)
        let script ← readBody fuel
        blanks
        if !(← rest).isEmpty then unexpected true none
        set after
        readPieces fuel context (.substitution script quoted :: pieces)
    | '\'' :: _ =>
      if quoted then
        advance 1
        readPieces fuel context (addOctet '\'' true pieces)
      else
        advance 1
        let text ← readSingleQuoted
        readPieces fuel context (.literal text.reverse true :: pieces)
    | '"' :: _ =>
      advance 1
      match context with
      | .document => readPieces fuel context (addOctet '"' true pieces)
      | .expression _ => readPieces fuel context pieces
      | _ =>
        if context = .braces true then
          readPieces fuel context pieces
        else
          let inner ← readPieces fuel .quotes []
          advance 1
          let inner := if inner.isEmpty then [.literal [] true] else inner
          readPieces fuel context
            ((inner.reverse.map fun
              | .literal text q => .literal text.reverse q
              | p => p) ++ pieces)
    | c :: _ =>
      advance 1
      let context := match context, c with
        | .expression depth, '(' => .expression (depth + 1)
        | .expression (depth + 1), ')' => .expression depth
        | context, _ => context
      readPieces fuel context (addOctet c quoted pieces)

/-- Read what follows a dollar sign. -/
def readDollar : Nat → Bool → Read Piece
  | 0, _ => fail "nested too deeply"
  | fuel + 1, quoted => do
    match ← rest with
    | '(' :: '(' :: _ =>
      advance 2
      let inner ← readPieces fuel (.expression 0) []
      if !(← accept "))") then fail "Missing '))'"
      return .arithmetic inner quoted
    | '(' :: _ =>
      advance 1
      let script ← readBody fuel
      newlines
      if !(← accept ")") then unexpected true (some (inQuotes ")"))
      return .substitution script quoted
    | '\x7b' :: _ =>
      advance 1
      readBraces fuel quoted
    | c :: cs =>
      if isNameStart c then
        let name := (c :: cs).takeWhile isNameChar
        advance name.length
        return .parameter name .value quoted
      else if c.isDigit || isSpecial c then
        advance 1
        return .parameter [c] .value quoted
      else return .literal ['$'] quoted
    | [] => return .literal ['$'] quoted

/-- Read a parameter in braces, whose first brace has been read. -/
def readBraces : Nat → Bool → Read Piece
  | 0, _ => fail "nested too deeply"
  | fuel + 1, quoted => do
    let nameAt (cs : Octets) : Octets :=
      match cs with
      | c :: _ =>
        if isNameStart c then cs.takeWhile isNameChar
        else if c.isDigit then cs.takeWhile Char.isDigit
        else if isSpecial c then [c]
        else []
      | [] => []
    let cs ← rest
    let counted := match cs with
      | '#' :: c :: _ => c != '\x7d' && !(nameAt (cs.drop 1)).isEmpty
      | _ => false
    if counted then
      let name := nameAt (cs.drop 1)
      if (cs.drop (1 + name.length)).head? = some '\x7d' then
        advance (2 + name.length)
        return .parameter name .length quoted
    let name := nameAt cs
    advance name.length
    let colon ← accept ":"
    let finish (use : Word → Use) : Read Piece := do
      let word ← readPieces fuel (.braces quoted) []
      advance 1
      return .parameter name (use word) quoted
    if name.isEmpty then return ← finish fun _ => .bad
    match ← rest with
    | '\x7d' :: _ => finish fun _ => if colon then .bad else .value
    | '-' :: _ => advance 1; finish (.orElse colon)
    | '=' :: _ => advance 1; finish (.orAssign colon)
    | '?' :: _ => advance 1; finish (.orFail colon)
    | '+' :: _ => advance 1; finish (.ifSet colon)
    | '#' :: '#' :: _ => advance 2; finish (.withoutStart true)
    | '#' :: _ => advance 1; finish (.withoutStart false)
    | '%' :: '%' :: _ => advance 2; finish (.withoutEnd true)
    | '%' :: _ => advance 1; finish (.withoutEnd false)
    | _ => finish fun _ => .bad

/-- Read a redirection, if one comes next. -/
def readRedirection : Nat → Read (Option Redirection)
  | 0 => fail "nested too deeply"
  | fuel + 1 => do
    let cs ← rest
    let (given, op) := match cs with
      | d :: c :: _ =>
        if d.isDigit && (c == '<' || c == '>') then (some (d.toNat - '0'.toNat), cs.drop 1)
        else (none, cs)
      | _ => (none, cs)
    let operators : List (String × Nat × Option Redirect) :=
      [("<<-", 0, none), ("<<", 0, none), ("<&", 0, some .duplicate), ("<>", 0, some .both),
        ("<", 0, some .input), (">>", 1, some .append), (">&", 1, some .duplicate),
        (">|", 1, some .output), (">", 1, some .output)]
    match operators.find? fun o => o.1.toList.isPrefixOf op with
    | none => return none
    | some (text, default, how) =>
      advance (text.length + (if given.isSome then 1 else 0))
      blanks
      let word ← readPieces fuel .word []
      if word.isEmpty then unexpected false none
      let descriptor := given.getD default
      match how with
      | some how => return some (.file descriptor how (withHome word))
      | none =>
        let (delimiter, quoted) := delimiterOf word
        let body ← readDocument delimiter (text == "<<-")
        if quoted then return some (.here descriptor [.literal body true])
        else
          let after ← get
          set (⟨body, after.line, 0⟩ : Place)
          let pieces ← readPieces fuel .document []
          set after
          return some (.here descriptor pieces)

/-- Read redirections, as they follow a compound command. -/
def readRedirections : Nat → Read (List Redirection)
  | 0 => fail "nested too deeply"
  | fuel + 1 => do
    blanks
    match ← readRedirection fuel with
    | none => return []
    | some r => return r :: (← readRedirections fuel)

/-- Read the words of a simple command, with its assignments and redirections. -/
def readSimple : Nat → Nat → List (Octets × Word) → List Word → List Redirection → Read Command
  | 0, _, _, _, _ => fail "nested too deeply"
  | fuel + 1, line, assignments, words, redirections => do
    blanks
    let finish : Command := .simple line assignments.reverse words.reverse redirections.reverse
    match ← readRedirection fuel with
    | some r => readSimple fuel line assignments words (r :: redirections)
    | none =>
      match ← rest with
      | [] => return finish
      | '(' :: _ =>
        match words, assignments, redirections with
        | [word], [], [] =>
          advance 1
          blanks
          if !(← accept ")") then unexpected false (some (inQuotes ")"))
          match plainText? word with
          | some name =>
            if !isName name then fail "Bad function name"
            newlines
            return .define name (← readCommand fuel)
          | none => fail "Bad function name"
        | _, _, _ => unexpected false none
      | c :: _ =>
        if isMeta c then return finish
        let word ← readPieces fuel .word []
        if words.isEmpty then
          match assignment? word with
          | some a => readSimple fuel line (a :: assignments) words redirections
          | none => readSimple fuel line assignments (withHome word :: words) redirections
        else readSimple fuel line assignments (withHome word :: words) redirections

/-- Read items, of which there has to be one unless the script ends here. -/
def readFilled : Nat → Read Body
  | 0 => fail "nested too deeply"
  | fuel + 1 => do
    let body ← readBody fuel
    if body.isEmpty && !(← rest).isEmpty then unexpected true none
    return body

/-- Read the branches after `if` or `elif`. -/
def readBranches : Nat → List (Body × Body) → Read (List (Body × Body) × Body)
  | 0, _ => fail "nested too deeply"
  | fuel + 1, branches => do
    let test ← readFilled fuel
    expectKeyword "then"
    let body ← readFilled fuel
    let branches := (test, body) :: branches
    newlines
    match ← peekKeyword with
    | some "elif" =>
      advance 4
      readBranches fuel branches
    | some "else" =>
      advance 4
      let otherwise ← readFilled fuel
      expectKeyword "fi"
      return (branches.reverse, otherwise)
    | _ =>
      expectKeyword "fi"
      return (branches.reverse, [])

/-- Read the words of `for` up to the end of the line. -/
def readForWords : Nat → List Word → Read (List Word)
  | 0, _ => fail "nested too deeply"
  | fuel + 1, words => do
    blanks
    match ← rest with
    | [] => unexpected false none
    | c :: _ =>
      if c == '\n' || c == ';' then
        advance 1
        return words.reverse
      if isMeta c then unexpected false none
      let word ← readPieces fuel .word []
      readForWords fuel (withHome word :: words)

/-- Read the patterns of one case, up to the closing parenthesis. -/
def readPatterns : Nat → List Word → Read (List Word)
  | 0, _ => fail "nested too deeply"
  | fuel + 1, words => do
    blanks
    let word ← readPieces fuel .word []
    if word.isEmpty then unexpected false none
    blanks
    if ← accept "|" then readPatterns fuel (word :: words)
    else if ← accept ")" then return (word :: words).reverse
    else unexpected false (some (inQuotes ")"))

/-- Read the cases up to `esac`. -/
def readCases : Nat → List (List Word × Body) → Read (List (List Word × Body))
  | 0, _ => fail "nested too deeply"
  | fuel + 1, cases => do
    newlines
    if (← peekKeyword) == some "esac" then
      advance 4
      return cases.reverse
    if (← rest).isEmpty then unexpected true (some (inQuotes ")"))
    let _ ← accept "("
    let patterns ← readPatterns fuel []
    let body ← readBody fuel
    let cases := (patterns, body) :: cases
    newlines
    if ← accept ";;" then readCases fuel cases
    else if (← peekKeyword) == some "esac" then
      advance 4
      return cases.reverse
    else unexpected true (some (inQuotes ";;"))

/-- Read the part of a loop from `do` to `done`. -/
def readDo : Nat → Read Body
  | 0 => fail "nested too deeply"
  | fuel + 1 => do
    expectKeyword "do"
    let body ← readFilled fuel
    expectKeyword "done"
    return body

/-- Read one command. -/
def readCommand : Nat → Read Command
  | 0 => fail "nested too deeply"
  | fuel + 1 => do
    blanks
    let line := (← get).line
    if ← accept "(" then
      let body ← readFilled fuel
      newlines
      if !(← accept ")") then unexpected true (some (inQuotes ")"))
      return .subshell body (← readRedirections fuel)
    match ← peekKeyword with
    | some "\x7b" =>
      advance 1
      let body ← readFilled fuel
      expectKeyword "\x7d"
      return .group body (← readRedirections fuel)
    | some "if" =>
      advance 2
      let (branches, otherwise) ← readBranches fuel []
      return .choice branches otherwise (← readRedirections fuel)
    | some "while" =>
      advance 5
      let test ← readFilled fuel
      let body ← readDo fuel
      return .loop true test body (← readRedirections fuel)
    | some "until" =>
      advance 5
      let test ← readFilled fuel
      let body ← readDo fuel
      return .loop false test body (← readRedirections fuel)
    | some "for" =>
      advance 3
      blanks
      let name := (← rest).takeWhile fun c => !isMeta c
      if !isName name then fail "Bad for loop variable"
      advance name.length
      newlines
      let words : Option (List Word) ← (do
        if (← peekKeyword) == some "in" then
          advance 2
          return some (← readForWords fuel [])
        else
          let _ ← accept ";"
          return none)
      let body ← readDo fuel
      return .forEach name words body (← readRedirections fuel)
    | some "case" =>
      advance 4
      blanks
      let word ← readPieces fuel .word []
      if word.isEmpty then unexpected false (some "word")
      expectKeyword "in"
      let cases ← readCases fuel []
      return .select line word cases (← readRedirections fuel)
    | some _ => unexpected true none
    | none =>
      match ← rest with
      | [] => unexpected true none
      | c :: _ =>
        if isMeta c && c != '<' && c != '>' then unexpected true none
        readSimple fuel line [] [] []

/-- Read the commands of a pipeline. -/
def readStages : Nat → List Command → Read (List Command)
  | 0, _ => fail "nested too deeply"
  | fuel + 1, stages => do
    let stages := (← readCommand fuel) :: stages
    blanks
    if (← startsWith "|") && !(← startsWith "||") then
      advance 1
      newlines
      readStages fuel stages
    else return stages.reverse

def readPipeline : Nat → Read Pipeline
  | 0 => fail "nested too deeply"
  | fuel + 1 => do
    blanks
    if (← peekKeyword) == some "!" then
      advance 1
      blanks
      return .mk true (← readStages fuel [])
    return .mk false (← readStages fuel [])

/-- Read the pipelines that are joined to the first one. -/
def readJoined : Nat → List (Joint × Pipeline) → Read (List (Joint × Pipeline))
  | 0, _ => fail "nested too deeply"
  | fuel + 1, joined => do
    blanks
    let joint : Option Joint ← (do
      if ← accept "&&" then return some .ifSuccess
      else if ← accept "||" then return some .ifFailure
      else return none)
    match joint with
    | none => return joined.reverse
    | some joint =>
      newlines
      let p ← readPipeline fuel
      readJoined fuel ((joint, p) :: joined)

/-- Read one item and the sign after it, if there is one. -/
def readItem : Nat → Read Item
  | 0 => fail "nested too deeply"
  | fuel + 1 => do
    let first ← readPipeline fuel
    let joined ← readJoined fuel []
    blanks
    if (← startsWith ";") && !(← startsWith ";;") then
      advance 1
      return .mk first joined false
    if ← accept "&" then return .mk first joined true
    return .mk first joined false

/-- Read items up to something that cannot begin one. -/
def readBody : Nat → Read Body
  | 0 => fail "nested too deeply"
  | fuel + 1 => do
    newlines
    let closing : Bool ← (do
      match ← peekKeyword with
      | some s => return ["do", "done", "elif", "else", "esac", "fi", "in", "then", "\x7d"].contains s
      | none => return (← startsWith ")") || (← startsWith ";;") || (← rest).isEmpty)
    if closing then return []
    let item ← readItem fuel
    blanks
    let next ← rest
    let goesOn := match next with
      | [] => false
      | '\n' :: _ => true
      | ')' :: _ => false
      | ';' :: ';' :: _ => false
      | _ => true
    if goesOn then return item :: (← readBody fuel)
    else return [item]

end

/-- Read the items of one line. -/
def readItemsOfLine : Nat → Nat → Read Body
  | 0, _ => return []
  | count + 1, fuel => do
    let item ← readItem fuel
    blanks
    if (← rest).isEmpty then return [item]
    if ← accept "\n" then return [item]
    return item :: (← readItemsOfLine count fuel)

/-- Read the next complete command of a script; none at its end. -/
def nextCommand (p : Place) : Except Misread (Option (Body × Place)) :=
  let fuel := 40 * p.rest.length + 200
  let read : Read (Option Body) := do
    newlines
    if (← rest).isEmpty then return none
    return some (← readItemsOfLine (p.rest.length + 1) fuel)
  match read.run p with
  | .error e => .error e
  | .ok (none, _) => .ok none
  | .ok (some body, p) => .ok (some (body, p))

end Assay.Sandbox.Shell
