import DiagnosticRelay.Shell.Leaf

/-!
# Reading shell scripts

Words and commands are read by recursive descent.  All readers have fuel, which is larger than
any script can use up; a reader without fuel behaves as at the end of the script.

A script is read one complete command at a time, since a fault further down must not
keep the commands before it from being run.
-/

namespace DiagnosticRelay

namespace Shell

namespace Reading

mutual

/-- The parts of a word up to its end at a place; the second argument holds the parts so far, the
latest first. -/
def parts : Nat → Place → Word → Reading Word
  | 0, _, found => return found.reverse
  | fuel + 1, place, found => do
    match ← ahead with
    | [] =>
      match place with
      | .bare | .document => return found.reverse
      | .doubleQuotes => fail .unterminatedQuote
      | .braces quoted => fail (if quoted then .unterminatedQuote else .missingBrace)
      | .arithmetic _ => fail .missingParentheses
    | c :: after =>
      if isPlain c then
        let run ← takeWhile isPlain
        parts fuel place (addPart found (.literal run place.isQuoted))
      else if c = .char '$' then
        skip 1
        parts fuel place (addPart found (← dollar fuel place))
      else if c = .char '\x60' then
        skip 1
        parts fuel place (addPart found (← backquotes fuel place))
      else if c = .char '\\' then
        match after with
        | [] =>
          skip 1
          parts fuel place (addPart found (.literal [c] true))
        | next :: _ =>
          if isEscapable place next then
            skip 2
            parts fuel place (addPart found (.literal [next] true))
          else
            skip 1
            parts fuel place (addPart found (.literal [c] place.isQuoted))
      else if c = .char '"' && place != .document then
        skip 1
        match place with
        | .doubleQuotes => return found.reverse
        | .arithmetic _ => parts fuel place (addPart found (.literal [c] true))
        | _ =>
          let inside ← parts fuel .doubleQuotes []
          let opened := if hasEach inside then inside else .literal [] true :: inside
          parts fuel place (opened.reverse ++ found)
      else if c = .char '\'' && (place == .bare || place == .braces false) then
        match Text.cutAt? (.char '\'') after with
        | some (inside, _) =>
          skip (inside.length + 2)
          parts fuel place (addPart found (.literal inside true))
        | none =>
          skip (after.length + 1)
          fail .unterminatedQuote
      else
        match place with
        | .bare =>
          if endsWord c then return found.reverse
          skip 1
          parts fuel place (addPart found (.literal [c] false))
        | .braces _ =>
          skip 1
          if c = .char '\x7d' then return found.reverse
          parts fuel place (addPart found (.literal [c] place.isQuoted))
        | .arithmetic depth =>
          skip 1
          let depth :=
            if c = .char '(' then depth + 1 else if c = .char ')' then depth - 1 else depth
          if c = .char ')' && place == .arithmetic 0 && after.head? == some (.char ')') then
            skip 1
            return found.reverse
          parts fuel (.arithmetic depth) (addPart found (.literal [c] true))
        | _ =>
          skip 1
          parts fuel place (addPart found (.literal [c] true))

/-- What stands after a dollar sign. -/
def dollar : Nat → Place → Reading WordPart
  | 0, _ => return .malformed
  | fuel + 1, place => do
    let quoted := place.isQuoted
    match ← ahead with
    | .char '(' :: .char '(' :: _ =>
      skip 2
      return .arithmetic (← parts fuel (.arithmetic 0) []) quoted
    | .char '(' :: _ =>
      skip 1
      let commands ← list fuel true
      let token ← next fuel
      if !token.isOperator (text ")") then unexpected token (some (text "\")\""))
      return .output commands quoted
    | .char '\x7b' :: _ =>
      skip 1
      braces fuel place
    | c :: _ =>
      if isNameStart c then
        return .parameter (.named (← takeWhile isNameChar)) quoted
      else if let some digit := c.asciiDigit? then
        skip 1
        return .parameter (.position digit) quoted
      else if let some parameter := markParameter? c then
        skip 1
        return .parameter parameter quoted
      else return .literal [.char '$'] quoted
    | [] => return .literal [.char '$'] quoted

/-- What stands after a dollar sign and an opening brace. -/
def braces : Nat → Place → Reading WordPart
  | 0, _ => return .malformed
  | fuel + 1, place => do
    let quoted := place.isQuoted
    let rest ← ahead
    if let some (parameter, used) := sizeParameter? rest then
      skip (used + 1)
      return .size parameter quoted
    match braceParameter? rest with
    | none =>
      let _ ← parts fuel (.braces quoted) []
      return .malformed
    | some (parameter, used) =>
      skip used
      let (use, length) := braceUse (← ahead)
      skip length
      match use with
      | .plain =>
        skip 1
        return .parameter parameter quoted
      | .fallback kind emptyCounts =>
        return .fallback parameter kind emptyCounts (← parts fuel (.braces quoted) []) quoted
      | .trim atEnd longest =>
        return .trim parameter atEnd longest (← parts fuel (.braces false) []) quoted
      | .malformed =>
        skip 1
        let _ ← parts fuel (.braces quoted) []
        return .malformed

/-- The output of a script between backquotes, after the opening one. -/
def backquotes : Nat → Place → Reading WordPart
  | 0, _ => return .malformed
  | fuel + 1, place => do
    let source ← get
    match backquoted place.isQuoted source.rest with
    | none =>
      skip source.rest.length
      fail .unterminatedOutput
    | some (script, used) =>
      skip used
      let after ← get
      set { rest := script, line := source.line : Source }
      let commands ← list fuel true
      let token ← next fuel
      match token with
      | .finish => pure ()
      | token => unexpected token none
      set after
      return .output commands place.isQuoted

/-- The next token. -/
def next : Nat → Reading Token
  | 0 => return .finish
  | fuel + 1 => do
    let source ← get
    if let some token := source.held then
      set { source with held := none }
      return token
    let _ ← ahead
    let _ ← takeWhile fun c => c == .char ' ' || c == .char '\t'
    match ← ahead with
    | [] => return .finish
    | .char ' ' :: _ => next fuel
    | .char '\t' :: _ => next fuel
    | .char '#' :: _ =>
      let _ ← takeWhile (· != .char '\n')
      next fuel
    | c :: after =>
      let rest := c :: after
      match c.asciiDigit?, operatorAt? redirectionOperators after with
      | some number, some operator =>
        skip (operator.length + 1)
        return .redirect (some number) operator
      | _, _ =>
        if let some operator := operatorAt? redirectionOperators rest then
          skip operator.length
          return .redirect none operator
        else if let some operator := operatorAt? operators rest then
          skip operator.length
          return .operator operator
        else return .word (← parts fuel .bare [])

/-- The next token, which stays where it is. -/
def peek : Nat → Reading Token
  | 0 => return .finish
  | fuel + 1 => do
    let token ← next fuel
    modify fun source => { source with held := some token }
    return token

/-- The next token that does not end a line; it stays where it is. -/
def peekBeyondNewlines : Nat → Reading Token
  | 0 => return .finish
  | fuel + 1 => do
    let token ← peek fuel
    if token.isNewline then
      let _ ← next fuel
      peekBeyondNewlines fuel
    else return token

/-- The next token, which has to be the given keyword. -/
def expect : Nat → String → Reading Unit
  | 0, _ => return ()
  | fuel + 1, name => do
    let token ← next fuel
    if !token.isKeyword name then unexpected token (some (text "\"" ++ text name ++ text "\""))

/-- The commands of a list inside another command; the flag says whether there may be none. -/
def list : Nat → Bool → Reading (List Command)
  | 0, _ => return []
  | fuel + 1, mayBeEmpty => do
    let token ← peekBeyondNewlines fuel
    if mayBeEmpty && token.endsList then return []
    match token with
    | .finish => return []
    | _ =>
      let first ← andOr fuel
      let token ← peek fuel
      if token.isOperator (text "&") then
        let _ ← next fuel
        return .background first :: (← list fuel true)
      else if token.isOperator (text ";") then
        let _ ← next fuel
        return first :: (← list fuel true)
      else if token.isNewline then return first :: (← list fuel true)
      else return [first]

/-- The commands of one line, or none at the end of the script. -/
def line : Nat → Reading (List Command)
  | 0 => return []
  | fuel + 1 => do
    match ← peek fuel with
    | .finish => return []
    | token =>
      if token.isNewline then
        let _ ← next fuel
        return []
      let first ← andOr fuel
      let token ← next fuel
      if token.isOperator (text "&") then return .background first :: (← line fuel)
      else if token.isOperator (text ";") then return first :: (← line fuel)
      else if token.isNewline then return [first]
      else match token with
        | .finish => return [first]
        | token => unexpected token none

/-- Pipelines with `&&` and `||` between them. -/
def andOr : Nat → Reading Command
  | 0 => return .group []
  | fuel + 1 => do andOrAfter fuel (← pipeline fuel)

/-- A command with what `&&` and `||` add to it. -/
def andOrAfter : Nat → Command → Reading Command
  | 0, first => return first
  | fuel + 1, first => do
    let token ← peek fuel
    if token.isOperator (text "&&") then
      let _ ← next fuel
      let _ ← peekBeyondNewlines fuel
      andOrAfter fuel (.both first (← pipeline fuel))
    else if token.isOperator (text "||") then
      let _ ← next fuel
      let _ ← peekBeyondNewlines fuel
      andOrAfter fuel (.either first (← pipeline fuel))
    else return first

/-- Commands with bars between them, perhaps negated. -/
def pipeline : Nat → Reading Command
  | 0 => return .group []
  | fuel + 1 => do
    let negated := (← peek fuel).isKeyword "!"
    if negated then
      let _ ← next fuel
    let first ← command fuel
    let commands ← piped fuel
    let whole := if commands.isEmpty then first else .pipeline (first :: commands)
    return if negated then .negated whole else whole

/-- The commands after the bars of a pipeline. -/
def piped : Nat → Reading (List Command)
  | 0 => return []
  | fuel + 1 => do
    if (← peek fuel).isOperator (text "|") then
      let _ ← next fuel
      let line := (← get).line
      let _ ← peekBeyondNewlines fuel
      let first ← commandAt fuel line
      return first :: (← piped fuel)
    else return []

/-- One command. -/
def command : Nat → Reading Command
  | 0 => return .group []
  | fuel + 1 => do
    let line := (← get).line
    let _ ← peek fuel
    commandAt fuel line

/-- One command that begins at a line. -/
def commandAt : Nat → Nat → Reading Command
  | 0, _ => return .group []
  | fuel + 1, line => do
    let token ← peek fuel
    match token with
    | .redirect .. => simple fuel (← get).line [] [] []
    | .word _ =>
      match token.keyword? with
      | none => simple fuel (← get).line [] [] []
      | some name =>
        let whole : Option (Reading Command) :=
          if name = text "\x7b" then some do
            let commands ← list fuel false
            expect fuel "\x7d"
            return .group commands
          else if name = text "if" then some (branch fuel)
          else if name = text "while" then some (loop fuel false)
          else if name = text "until" then some (loop fuel true)
          else if name = text "for" then some (each fuel line)
          else if name = text "case" then some (choose fuel line)
          else none
        match whole with
        | none =>
          let _ ← next fuel
          unexpected token none
        | some read =>
          let _ ← next fuel
          withRedirections fuel line (← read)
    | .operator op =>
      let _ ← next fuel
      if op = text "(" then
        let commands ← list fuel false
        let token ← next fuel
        if !token.isOperator (text ")") then unexpected token (some (text "\")\""))
        withRedirections fuel line (.subshell commands)
      else unexpected token none
    | .finish => unexpected token none

/-- A command with the redirections that follow it.  Redirections behind braces around nothing but
parentheses take the place of those behind the parentheses. -/
def withRedirections : Nat → Nat → Command → Reading Command
  | 0, _, command => return command
  | fuel + 1, line, command => do
    match ← redirections fuel with
    | [] => return command
    | found => return match command.subshell? with
      | some subshell => .redirected line subshell found
      | none => .redirected line command found

/-- The redirections that follow. -/
def redirections : Nat → Reading (List Redirection)
  | 0 => return []
  | fuel + 1 => do
    match ← peek fuel with
    | .redirect number operator =>
      let _ ← next fuel
      let first ← redirection fuel number operator
      return first :: (← redirections fuel)
    | _ => return []

/-- A redirection after its operator. -/
def redirection : Nat → Option Nat → Text → Reading Redirection
  | 0, _, _ => return .document 0 []
  | fuel + 1, number, operator => do
    match ← next fuel with
    | .word w =>
      if operator = text ">" ∨ operator = text ">|" then return .write (number.getD 1) false w
      else if operator = text ">>" then return .write (number.getD 1) true w
      else if operator = text ">&" then return .follow (number.getD 1) w
      else if operator = text "<&" then return .follow (number.getD 0) w
      else if operator = text "<" ∨ operator = text "<>" then return .read (number.getD 0) w
      else
        let (mark, quoted) := delimiter w
        let (body, source) := (← get).cutDocument mark (operator == text "<<-")
        if quoted then
          set source
          return .document (number.getD 0) [.literal body true]
        else
          set { rest := body, line := source.line : Source }
          let w ← parts fuel .document []
          set source
          return .document (number.getD 0) w
    | token => unexpected token none

/-- A simple command on a line, with its assignments, words and redirections so far, the latest
first; or the definition of a function. -/
def simple : Nat → Nat → List (Text × Word) → List Word → List Redirection → Reading Command
  | 0, line, assignments, words, found =>
    return .simple line assignments.reverse words.reverse found.reverse
  | fuel + 1, line, assignments, words, found => do
    let token ← peek fuel
    match token with
    | .word w =>
      let _ ← next fuel
      match if words.isEmpty then assignment? w else none with
      | some assignment => simple fuel line (assignment :: assignments) words found
      | none => simple fuel line assignments (w :: words) found
    | .redirect number operator =>
      let _ ← next fuel
      let redirection ← redirection fuel number operator
      simple fuel line assignments words (redirection :: found)
    | token =>
      let single := words.length == 1 && assignments.isEmpty && found.isEmpty
      if single && token.isOperator (text "(") then
        let _ ← next fuel
        let token ← next fuel
        if !token.isOperator (text ")") then
          fail (.unexpected token.describePlain (some (text "\")\"")))
        match (words.head?.bind bareText?).filter isName with
        | none => fail .badFunctionName
        | some name =>
          if specialBuiltins.contains name then fail .badFunctionName
          let _ ← peekBeyondNewlines fuel
          return .define name (← command fuel)
      else return .simple line assignments.reverse words.reverse found.reverse

/-- A conditional after its first word. -/
def branch : Nat → Reading Command
  | 0 => return .group []
  | fuel + 1 => do
    let condition ← list fuel false
    expect fuel "then"
    let yes ← list fuel false
    let token ← peek fuel
    if token.isKeyword "elif" then
      let _ ← next fuel
      return .branch condition yes [← branch fuel]
    else if token.isKeyword "else" then
      let _ ← next fuel
      let no ← list fuel false
      expect fuel "fi"
      return .branch condition yes no
    else
      expect fuel "fi"
      return .branch condition yes []

/-- A loop after its first word. -/
def loop : Nat → Bool → Reading Command
  | 0, _ => return .group []
  | fuel + 1, untilTrue => do
    let condition ← list fuel false
    expect fuel "do"
    let body ← list fuel false
    expect fuel "done"
    return .loop untilTrue condition body

/-- A loop over words after its first word, which stands on a line. -/
def each : Nat → Nat → Reading Command
  | 0, _ => return .group []
  | fuel + 1, line => do
    let token ← next fuel
    let name ← match token with
      | .word w => match bareText? w with
        | some name => if isName name then pure name else fail .badLoopName
        | none => fail .badLoopName
      | _ => fail .badLoopName
    let token ← peekBeyondNewlines fuel
    let words ← if token.isKeyword "in" then
        let _ ← next fuel
        let words ← wordList fuel
        let token ← next fuel
        if !(token.isNewline || token.isOperator (text ";")) then unexpected token none
        pure (some words)
      else
        if token.isOperator (text ";") then
          let _ ← next fuel
        pure none
    let _ ← peekBeyondNewlines fuel
    expect fuel "do"
    let body ← list fuel false
    expect fuel "done"
    return .each line name words body

/-- The words that follow. -/
def wordList : Nat → Reading (List Word)
  | 0 => return []
  | fuel + 1 => do
    match ← peek fuel with
    | .word w =>
      let _ ← next fuel
      return w :: (← wordList fuel)
    | _ => return []

/-- A choice after its first word, which stands on a line. -/
def choose : Nat → Nat → Reading Command
  | 0, _ => return .group []
  | fuel + 1, line => do
    match ← next fuel with
    | .word subject =>
      let _ ← peekBeyondNewlines fuel
      expect fuel "in"
      return .choose line subject (← arms fuel)
    | token => unexpected token (some (text "word"))

/-- The arms of a choice up to its end. -/
def arms : Nat → Reading (List (List Word × List Command))
  | 0 => return []
  | fuel + 1 => do
    let token ← peekBeyondNewlines fuel
    let _ ← next fuel
    if token.isKeyword "esac" then return []
    let token ← if token.isOperator (text "(") then next fuel else pure token
    let patterns ← patterns fuel token
    let body ← list fuel true
    let token ← peekBeyondNewlines fuel
    if token.isKeyword "esac" then
      let _ ← next fuel
      return [(patterns, body)]
    else if token.isOperator (text ";;") then
      let _ ← next fuel
      return (patterns, body) :: (← arms fuel)
    else unexpected token (some (text "\";;\""))

/-- The patterns of an arm from the given token up to the closing parenthesis. -/
def patterns : Nat → Token → Reading (List Word)
  | 0, _ => return []
  | fuel + 1, token => do
    let pattern := match token with
      | .word w => w
      | _ => []
    let token ← next fuel
    if token.isOperator (text ")") then return [pattern]
    else if token.isOperator (text "|") then
      return pattern :: (← patterns fuel (← next fuel))
    else unexpected token (some (text "\")\""))

end

end Reading

/-- The commands of the next line of a script, and what is left of it; nothing is left at the end of
the script. -/
def Source.nextLine (source : Source) : Except SyntaxError (Option (List Command × Source)) :=
  if source.rest.isEmpty then .ok none
  else (((Reading.line (12 * source.rest.length + 100)).run source).map some)

end Shell

end DiagnosticRelay
