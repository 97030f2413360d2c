import Excerpt.Ruby.Lexeme

/-!
The grammar of Ruby, as a recogniser on text. A word is a keyword only where the construct around it
can use it, so the reader carries a context along: the words that close the enclosing body, whether a
line break ends the expression, and whether a call may do without parentheses. Rules call each other
through `self`, and `derive` ties the knot with a bound on the depth of calls.
-/
namespace Excerpt.Ruby

/-- A place in the text, and the here-documents whose bodies start at the next line. -/
structure Cursor where
  text : Text
  pending : List Heredoc := []
deriving DecidableEq, Repr

structure Context where
  /-- The words that close the enclosing body. -/
  closers : List String := []
  /-- A line break ends the expression. -/
  breaks : Bool := true
  /-- A call may have arguments without parentheses. -/
  commands : Bool := true
  /-- The word `do` belongs to the enclosing loop. -/
  loopHead : Bool := false
  /-- A comma belongs to the enclosing list. -/
  listed : Bool := false
  /-- A bar closes the enclosing parameters. -/
  bars : Bool := false
deriving DecidableEq, Repr

namespace Context

/-- For the statements of a body. -/
def body (closers : List String) : Context := { closers }

/-- For the items of a list in brackets. -/
def item : Context := { breaks := false, listed := true }

/-- For an operand: no call without parentheses. -/
def tight (c : Context) : Context := { c with commands := false }

end Context

/-- What an expression may stand for. -/
structure Shape where
  /-- It can be called, with or without parentheses. -/
  callable : Bool := false
  /-- It takes a block. -/
  blockable : Bool := false
  /-- It can be assigned to. -/
  place : Bool := false
  /-- It is a string. -/
  string : Bool := false
  /-- It is a call without parentheses, which no operator may follow. -/
  command : Bool := false
deriving DecidableEq, Repr

namespace Shape

def other : Shape := {}

def name : Shape := { callable := true, blockable := true, place := true }

end Shape

inductive Rule where
  | statements (closers : List String)
  | statement (c : Context)
  | expression (c : Context)
  | operand (c : Context)
  | primary (c : Context)
  | tail (c : Context) (shape : Shape)
  | arguments (close : Char)
  | literal (l : Literal) (depth : Nat)
  | parameters (close : Char)
  | patterns (close : Char)
  | pattern
deriving DecidableEq, Repr

abbrev Outcome := Option (Shape × Cursor)

abbrev Self := Rule → Cursor → Outcome

def plain (r : Option Cursor) : Outcome := r.map fun k => (Shape.other, k)

namespace Cursor

def at_ (k : Cursor) (t : Text) : Cursor := { k with text := t }

/-- Moves by a reader of text. -/
def move (k : Cursor) (r : Option Text) : Option Cursor := r.map k.at_

end Cursor

section blanks
variable (self : Self)

def run (rule : Rule) (k : Cursor) : Option Cursor := (self rule k).map (·.2)

/-- What is put into a literal, from after its opening brace. -/
def filling (k : Cursor) : Option Cursor := do
  let k ← run self (.statements []) k
  match k.text.dropWhile isSpace with
  | '}' :: r => some (k.at_ r)
  | _ => none

/-- A variable put in without braces, from after the number sign. -/
def shortFilling? (t : Text) : Option Text :=
  match t with
  | '@' :: _ => sigilName? t
  | '$' :: _ => sigilName? t
  | _ => none

/-- Does the line end the here-document? If so, what follows the closing word. -/
def closesHeredoc? (h : Heredoc) (t : Text) : Option Text :=
  let t := if h.indented then t.dropWhile fun c => c == ' ' || c == '\t' else t
  match after? h.word t with
  | none => none
  | some r =>
    match r.dropWhile fun c => c == ' ' || c == '\t' with
    | [] => some r
    | c :: _ => if c == '\n' || c == '\r' then some r else none

/-- The body of a here-document from a line break on; the text may end before it does. -/
def heredocBody (h : Heredoc) : Text → Text → Option Text
  | [], t => some t
  | _ :: bound, t =>
    match t with
    | [] => some []
    | '\r' :: '\n' :: r => lineStart bound r
    | '\r' :: r => lineStart bound r
    | '\n' :: r => lineStart bound r
    | '\\' :: r => if h.filled then (escape? r).bind (heredocBody h bound) else heredocBody h bound r
    | '#' :: '{' :: r =>
      if h.filled then do
        let k ← filling self { text := r }
        heredocBody h bound k.text
      else heredocBody h bound ('{' :: r)
    | '#' :: r =>
      match if h.filled then shortFilling? r else none with
      | some u => heredocBody h bound u
      | none => heredocBody h bound r
    | _ :: r => heredocBody h bound r
where
  lineStart (bound r : Text) : Option Text :=
    match closesHeredoc? h r with
    | some u => some u
    | none => heredocBody h bound r

/-- Steps to the next token. A line break that ends the expression gives nothing; it does not, before
a call on the line that follows. The flags say whether blanks came before and whether a line break
has been crossed. -/
def pauseWithin (breaks : Bool) : Text → (spaced crossed : Bool) → Cursor → Option (Bool × Cursor)
  | [], spaced, _, k => some (spaced, k)
  | _ :: bound, spaced, crossed, k =>
    match k.text with
    | [] => if crossed then none else some (spaced, k)
    | ' ' :: r | '\t' :: r => pauseWithin breaks bound true crossed (k.at_ r)
    | '\r' :: r =>
      match k.pending with
      | [] => pauseWithin breaks bound true crossed (k.at_ r)
      | h :: rest => do
        let u ← heredocBody self h (' ' :: k.text) k.text
        pauseWithin breaks bound spaced crossed ⟨u, rest⟩
    | '\n' :: r =>
      match k.pending with
      | [] => pauseWithin breaks bound true (crossed || breaks) (k.at_ r)
      | h :: rest => do
        let u ← heredocBody self h (' ' :: k.text) k.text
        pauseWithin breaks bound spaced crossed ⟨u, rest⟩
    | '\\' :: '\n' :: r | '\\' :: '\r' :: '\n' :: r => pauseWithin breaks bound true crossed (k.at_ r)
    | '#' :: r =>
      pauseWithin breaks bound spaced false
        (k.at_ (r.dropWhile fun c => c != '\n' && c.toNat != 0))
    | c :: r =>
      if crossed then
        match c, r with
        | '.', d :: _ => if d == '.' then none else some (spaced, k)
        | '&', d :: _ => if d == '.' then some (spaced, k) else none
        | _, _ => none
      else if isSpace c then pauseWithin breaks bound spaced crossed (k.at_ r)
      else
        match longComment? k.text with
        | some u => pauseWithin breaks bound spaced crossed (k.at_ u)
        | none => some (spaced, k)

/-- The next token, unless a line break ends the expression before it. -/
def pause (breaks : Bool) (k : Cursor) : Option (Bool × Cursor) :=
  pauseWithin self breaks (' ' :: k.text) false false k

/-- The next token, over any line breaks. A here-document in between may be faulty. -/
def skip (k : Cursor) : Cursor := ((pause self false k).map (·.2)).getD k

/-- The rest after a given mark. -/
def mark? (c : Char) (k : Cursor) : Option Cursor :=
  let k := skip self k
  match k.text with
  | d :: r => if d == c then some (k.at_ r) else none
  | [] => none

/-- The rest after a given word, over any line breaks. -/
def next? (w : String) (k : Cursor) : Option Cursor :=
  let k := skip self k
  k.move (keyword? w k.text)

/-- The rest after a given word on the same line. -/
def sameLine? (w : String) (k : Cursor) : Option Cursor := do
  let (_, k) ← pause self true k
  k.move (keyword? w k.text)

/-- The end of a head: a line break or a semicolon. -/
def terminator (k : Cursor) : Option Cursor :=
  match pause self true k with
  | none => some k
  | some (_, j) =>
    match j.text with
    | ';' :: r => some (j.at_ r)
    | _ => none

/-- A quoted literal from after its opening delimiter, `depth` of them being open. -/
def literal (l : Literal) : Text → Nat → Cursor → Option Cursor
  | [], _, _ => none
  | _ :: bound, depth, k =>
    match k.text with
    | [] => none
    | c :: r =>
      if c == l.closing then
        if depth ≤ 1 then
          some (k.at_ (if l.lettered then r.dropWhile fun d => 'a' ≤ d && d ≤ 'z' else r))
        else literal l bound (depth - 1) (k.at_ r)
      else if c == l.opening then literal l bound (depth + 1) (k.at_ r)
      else if c == '#' && l.filled then
        match r with
        | '{' :: u => do
          let j ← filling self { text := u }
          literal l bound depth { text := j.text, pending := k.pending ++ j.pending }
        | r => literal l bound depth (k.at_ ((shortFilling? r).getD r))
      else if c == '\\' then
        if l.filled then (escape? r).bind fun u => literal l bound depth (k.at_ u)
        else literal l bound depth (k.at_ (r.drop 1))
      else literal l bound depth (k.at_ r)

end blanks

/-! ### Where an argument may start -/

/-- Words that go on with an expression after its last operand. -/
def joiningWords : List String :=
  ["and", "or", "if", "unless", "while", "until", "rescue", "in", "do"]

/-- Does a word after a complete expression belong to what is around it? -/
def isStop (c : Context) (w : String) : Bool := c.closers.contains w || joiningWords.contains w

def startsBlank : Text → Bool
  | [] => true
  | c :: _ => isSpace c

/-- Can an operand start here, where no value comes before it? -/
def startsOperand (c : Context) (t : Text) : Bool :=
  match word? t with
  | some (w, _) => !isStop c w
  | none =>
    match t with
    | ':' :: r =>
      (symbolName? r).isSome || r.head? == some '"' || r.head? == some '\'' || r.head? == some ':'
    | '<' :: _ => (heredoc? t).isSome
    | '?' :: r => (character? r).isSome
    | '%' :: r => (percent? false r).isSome
    | d :: _ =>
      d.isDigit || ['(', '[', '{', '"', '\'', '`', '@', '$', '-', '+', '!', '~', '/'].contains d
    | [] => false

/-- Does the argument of a call without parentheses start here? Signs that also stand between two
values count if blanks come before them and none after. -/
def startsArgument (c : Context) (spaced : Bool) (t : Text) : Bool :=
  match word? t with
  | some (w, r) => (colon? r).isSome || !isStop c w
  | none =>
    match t with
    | '[' :: _ | '(' :: _ => spaced
    | '-' :: '>' :: _ => true
    | '-' :: r => spaced && !startsBlank r && r.head? != some '='
    | '*' :: '*' :: r => spaced && !startsBlank r && r.head? != some '='
    | '*' :: r => spaced && !startsBlank r && r.head? != some '='
    | '&' :: r =>
      spaced && !startsBlank r && r.head? != some '=' && r.head? != some '&' && r.head? != some '.'
    | '!' :: r => r.head? != some '=' && r.head? != some '~'
    | '/' :: r => spaced && !startsBlank r && r.head? != some '='
    | '%' :: r => (percent? true r).isSome
    | ':' :: ':' :: _ => spaced
    | '+' :: _ | '{' :: _ => false
    | t => startsOperand c t

section expressions
variable (self : Self)

/-- The value after a key; it may be missing, and no line break ends the expression before it. -/
def labelled (c : Context) (k : Cursor) : Outcome :=
  let j := skip self k
  if startsOperand c j.text then self (.expression c.tight) j else some (.other, k)

/-- What a star or an ampersand stands before; it may be missing. -/
def spread (c : Context) (k : Cursor) : Outcome :=
  match pause self c.breaks k with
  | none => some (.other, k)
  | some (_, j) =>
    if startsOperand c j.text then plain (run self (.expression c.tight) j) else some (.other, k)

/-- One argument of a call or item of a list. -/
def argument (c : Context) (k : Cursor) : Outcome :=
  let k := skip self k
  let c := { c with commands := true, listed := true }
  match k.text with
  | '*' :: '*' :: r | '*' :: r | '&' :: r => spread self c (k.at_ r)
  | '.' :: '.' :: '.' :: r =>
    match r.dropWhile isSpace with
    | ')' :: _ => some (.other, k.at_ r)
    | _ => self (.expression c) k
  | t =>
    match key? t with
    | some r => labelled self c (k.at_ r)
    | none => do
      let (s, j) ← self (.expression c) k
      if s.string && (colon? j.text).isSome then labelled self c (j.at_ (j.text.drop 1))
      else
        match pause self c.breaks j with
        | some (_, i) =>
          match i.text with
          | '=' :: '>' :: r =>
            if s.command then none else self (.expression c.tight) (i.at_ r)
          | _ => some (s, j)
        | none => some (s, j)

/-- One entry of a hash. -/
def entry (k : Cursor) : Outcome :=
  let k := skip self k
  let c := Context.item
  match k.text with
  | '*' :: '*' :: r => spread self c (k.at_ r)
  | t =>
    match key? t with
    | some r => labelled self c (k.at_ r)
    | none => do
      let (s, j) ← self (.expression c.tight) k
      if s.string && (colon? j.text).isSome then labelled self c (j.at_ (j.text.drop 1))
      else
        let j := skip self j
        match j.text with
        | '=' :: '>' :: r => self (.expression c.tight) (j.at_ r)
        | _ => none

/-- Arguments up to the closing bracket, or the entries of a hash up to its brace; a comma may come
last. -/
def argumentsUpTo (close : Char) : Text → Cursor → Option Cursor
  | [], _ => none
  | _ :: bound, k =>
    let k := skip self k
    match k.text with
    | d :: r =>
      if d == close then some (k.at_ r)
      else do
        let (_, j) ← if close == '}' then entry self k else argument self .item k
        let j := skip self j
        match j.text with
        | ',' :: r => argumentsUpTo close bound (j.at_ r)
        | d :: r => if d == close then some (j.at_ r) else none
        | [] => none
    | [] => none

/-- The arguments of a call without parentheses. -/
def commandArguments (c : Context) : Text → Cursor → Option Cursor
  | [], _ => none
  | _ :: bound, k => do
    let (_, j) ← argument self c k
    match pause self c.breaks j with
    | some (_, i) =>
      match i.text with
      | ',' :: r => commandArguments c bound (i.at_ r)
      | _ => some j
    | none => some j

/-- Statements up to the word `end`, with clauses for faults. -/
def bodyEnd : Text → Cursor → Option Cursor
  | [], _ => none
  | _ :: bound, k => do
    let k ← run self (.statements ["rescue", "else", "ensure", "end"]) k
    let k := skip self k
    match word? k.text with
    | some ("end", r) => some (k.at_ r)
    | some ("else", r) | some ("ensure", r) => bodyEnd bound (k.at_ r)
    | some ("rescue", r) => do
      let k ← faults (k.at_ r)
      bodyEnd bound k
    | _ => none
where
  list : Text → Cursor → Option Cursor
    | [], _ => none
    | _ :: bound, k => do
      let c : Context := { closers := ["then"], commands := false, listed := true }
      let (_, j) ← argument self c k
      match pause self true j with
      | some (_, i) =>
        match i.text with
        | ',' :: r => list bound (i.at_ r)
        | _ => some j
      | none => some j
  /-- The head of such a clause. -/
  faults (k : Cursor) : Option Cursor := do
    let k ←
      match pause self true k with
      | none => some k
      | some (_, j) =>
        if j.text.head? == some '=' || j.text.head? == some ';' ||
            (keyword? "then" j.text).isSome then some k
        else list (' ' :: j.text) j
    let k ←
      match pause self true k with
      | some (_, j) =>
        match j.text with
        | '=' :: '>' :: r => run self (.primary { closers := ["then"], commands := false }) (j.at_ r)
        | _ => some k
      | none => some k
    thenOrBreak k
  thenOrBreak (k : Cursor) : Option Cursor :=
    match sameLine? self "then" k with
    | some j => some j
    | none => do
      let j ← terminator self k
      some ((next? self "then" j).getD j)

/-- The body of a definition or block. -/
def body (k : Cursor) : Option Cursor := bodyEnd self (' ' :: k.text) k

/-- The end of a condition: a line break, a semicolon, or the word `then`. -/
def thenOrBreak (k : Cursor) : Option Cursor := bodyEnd.thenOrBreak self k

/-- Parameters between bars, if there are any. -/
def barParameters (k : Cursor) : Option Cursor :=
  match mark? self '|' k with
  | some j => run self (.parameters '|') j
  | none => some k

/-- A block from after its opening brace. -/
def braceBlock (k : Cursor) : Option Cursor := do
  let k ← barParameters self k
  let k ← run self (.statements []) k
  mark? self '}' k

/-- A block from after the word `do`. -/
def doBlock (k : Cursor) : Option Cursor := do
  let k ← barParameters self k
  body self k

/-- A method from after the call's dot. -/
def calledMethod (c : Context) (k : Cursor) : Outcome :=
  let k := skip self k
  match k.text with
  | '(' :: r => do
    let j ← run self (.arguments ')') (k.at_ r)
    self (.tail c { blockable := true }) j
  | t =>
    match word? t with
    | some (_, r) => self (.tail c .name) (k.at_ r)
    | none => (operator? t).bind fun r => self (.tail c .name) (k.at_ r)

/-- What may follow a call without parentheses: a block, and calls on its value. -/
def commandTail (c : Context) (k : Cursor) : Outcome :=
  match pause self c.breaks k with
  | none => some ({ command := true }, k)
  | some (_, j) =>
    match j.text with
    | '{' :: r => (braceBlock self (j.at_ r)).bind called
    | t =>
      match if c.loopHead then none else keyword? "do" t with
      | some r => (doBlock self (j.at_ r)).bind called
      | none => some ({ command := true }, k)
where
  called (k : Cursor) : Outcome := do
    let (_, k) ← self (.tail c .other) k
    some ({ command := true }, k)

/-- What may follow a value and bind as tightly: calls, constants, items, arguments and blocks. -/
def tail (c : Context) (s : Shape) (k : Cursor) : Outcome :=
  if s.command then some (s, k)
  else
    match pause self c.breaks k with
    | none => some (s, k)
    | some (spaced, j) =>
      let command : Outcome :=
        if s.callable && c.commands && startsArgument c spaced j.text then do
          let i ← commandArguments self c (' ' :: j.text) j
          commandTail self c i
        else some (s, k)
      match j.text with
      | '.' :: '.' :: _ => some (s, k)
      | '.' :: r | '&' :: '.' :: r => calledMethod self c (j.at_ r)
      | ':' :: ':' :: r => if spaced then command else calledMethod self c (j.at_ r)
      | '[' :: r =>
        if !spaced || !(s.callable && c.commands) then do
          let i ← run self (.arguments ']') (j.at_ r)
          self (.tail c { place := true, blockable := true }) i
        else command
      | '(' :: r =>
        if s.callable && !spaced then do
          let i ← run self (.arguments ')') (j.at_ r)
          self (.tail c { blockable := true }) i
        else command
      | '{' :: r =>
        if s.blockable then do
          let i ← braceBlock self (j.at_ r)
          self (.tail c .other) i
        else some (s, k)
      | t =>
        match if s.blockable && !c.loopHead then keyword? "do" t else none with
        | some r => do
          let i ← doBlock self (j.at_ r)
          self (.tail c .other) i
        | none => command

/-- The pieces of a string written one after the other. -/
def strings (c : Context) : Text → Cursor → Option Cursor
  | [], _ => none
  | _ :: bound, k =>
    match pause self c.breaks k with
    | none => some k
    | some (_, j) =>
      match j.text with
      | '"' :: r => do
        let i ← run self (.literal (.ofQuote '"' true) 1) (j.at_ r)
        strings c bound i
      | '\'' :: r => do
        let i ← run self (.literal (.ofQuote '\'' false) 1) (j.at_ r)
        strings c bound i
      | _ => some k

def string (c : Context) (l : Literal) (k : Cursor) : Outcome := do
  let k ← run self (.literal l 1) k
  let j ← strings self c (' ' :: k.text) k
  self (.tail c { string := true }) j

/-! ### Constructs with a body -/

def statementContext (closers : List String) : Context := .body closers

/-- A condition with its branches, from after the first word. -/
def branches : Text → Cursor → Option Cursor
  | [], _ => none
  | _ :: bound, k => do
    let k ← run self (.statement (.body ["then"])) k
    let k ← thenOrBreak self k
    let k ← run self (.statements ["else", "elsif", "end"]) k
    let k := skip self k
    match word? k.text with
    | some ("elsif", r) => branches bound (k.at_ r)
    | some ("else", r) => do
      let k ← run self (.statements ["end"]) (k.at_ r)
      next? self "end" k
    | some ("end", r) => some (k.at_ r)
    | _ => none

/-- The body of a loop, from after its head. -/
def loopBody (k : Cursor) : Option Cursor := do
  let k ←
    match sameLine? self "do" k with
    | some j => some j
    | none => terminator self k
  let k ← run self (.statements ["end"]) k
  next? self "end" k

def conditionLoop (k : Cursor) : Option Cursor := do
  let k ← run self (.expression { loopHead := true }) k
  loopBody self k

/-- One target of an assignment to several; groups of them stand in parentheses. -/
def target (c : Context) : Text → Cursor → Option Cursor
  | [], _ => none
  | _ :: bound, k =>
    let k := skip self k
    match k.text with
    | '*' :: r =>
      match pause self c.breaks (k.at_ r) with
      | none => some (k.at_ r)
      | some (_, j) =>
        if startsOperand c j.text then placed j else some (k.at_ r)
    | '(' :: r => do
      let j ← group bound (' ' :: r) (k.at_ r)
      mark? self ')' j
    | _ => placed k
where
  placed (k : Cursor) : Option Cursor := do
    let (s, j) ← self (.primary { c with commands := false, listed := true }) k
    if s.place then some j else none
  group (bound : Text) : Text → Cursor → Option Cursor
    | [], _ => none
    | _ :: more, k => do
      let k ← target c bound k
      match mark? self ',' k with
      | some j => if (mark? self ')' j).isSome then some j else group bound more j
      | none => some k

/-- The values of an assignment. -/
def values (c : Context) (k : Cursor) : Outcome := do
  let k := skip self k
  let inner := { c with listed := true }
  let (s, j) ←
    match k.text with
    | '*' :: r => plain (run self (.expression inner.tight) (k.at_ r))
    | _ => self (.expression inner) k
  let j ← if s.command || c.listed then some j else more (' ' :: j.text) j
  match sameLine? self "rescue" j with
  | some i => if s.command then some (s, j) else plain (run self (.expression inner.tight) i)
  | none => some (s, j)
where
  more : Text → Cursor → Option Cursor
    | [], _ => none
    | _ :: bound, k =>
      match pause self c.breaks k with
      | some (_, j) =>
        match j.text with
        | ',' :: r => do
          let i := skip self (j.at_ r)
          let inner := { c with listed := true, commands := false }
          let i ←
            match i.text with
            | '*' :: u => run self (.expression inner) (i.at_ u)
            | _ => run self (.expression inner) i
          more bound i
        | _ => some k
      | none => some k

/-- The other targets of an assignment to several, from after the first comma, and its values. -/
def targets (c : Context) : Text → Cursor → Outcome
  | [], _ => none
  | _ :: bound, k =>
    let k := skip self k
    match equals? k.text with
    | some r => values self c (k.at_ r)
    | none => do
      let j ← target self c (' ' :: k.text) k
      let (_, j) ← pause self c.breaks j
      match j.text with
      | ',' :: r => targets c bound (j.at_ r)
      | t => (equals? t).bind fun r => values self c (j.at_ r)

/-- An assignment to several that starts with a group or a star. -/
def groupedTargets (c : Context) (k : Cursor) : Outcome := do
  let j ← target self c (' ' :: k.text) k
  let (_, j) ← pause self c.breaks j
  match j.text with
  | ',' :: r => targets self c (' ' :: r) (j.at_ r)
  | t => (equals? t).bind fun r => values self c (j.at_ r)

def iteration (k : Cursor) : Option Cursor := do
  let c : Context := { closers := ["in"], breaks := false, commands := false, listed := true }
  let k ← loopVariables c (' ' :: k.text) k
  let k ← next? self "in" k
  let k ← run self (.expression { commands := false, loopHead := true }) k
  loopBody self k
where
  loopVariables (c : Context) : Text → Cursor → Option Cursor
    | [], _ => none
    | _ :: bound, k => do
      let k ← target self c (' ' :: k.text) k
      match mark? self ',' k with
      | some j => loopVariables c bound j
      | none => some k

/-- The values that a case is compared with. -/
def comparedWith : Text → Cursor → Option Cursor
  | [], _ => none
  | _ :: bound, k => do
    let k := skip self k
    let c : Context := { closers := ["then"], commands := false, listed := true }
    let j ←
      match k.text with
      | '*' :: r => run self (.expression c) (k.at_ r)
      | _ => run self (.expression c) k
    match pause self true j with
    | some (_, i) =>
      match i.text with
      | ',' :: r => comparedWith bound (i.at_ r)
      | _ => some j
    | none => some j

/-- The pattern of a case, with its guard. -/
def matchedWith (k : Cursor) : Option Cursor := do
  let k ← run self (.patterns ' ') k
  match pause self true k with
  | some (_, j) =>
    match word? j.text with
    | some ("if", r) | some ("unless", r) => run self (.expression { closers := ["then"] }) (j.at_ r)
    | _ => some k
  | none => some k

/-- The cases of a choice up to the word `end`. -/
def cases : Text → Cursor → Option Cursor
  | [], _ => none
  | _ :: bound, k =>
    let k := skip self k
    match word? k.text with
    | some ("when", r) => do
      let j ← comparedWith self (' ' :: r) (k.at_ r)
      let j ← thenOrBreak self j
      let j ← run self (.statements ["when", "else", "end"]) j
      cases bound j
    | some ("in", r) => do
      let j ← matchedWith self (k.at_ r)
      let j ← thenOrBreak self j
      let j ← run self (.statements ["in", "else", "end"]) j
      cases bound j
    | some ("else", r) => do
      let j ← run self (.statements ["end"]) (k.at_ r)
      next? self "end" j
    | some ("end", r) => some (k.at_ r)
    | _ =>
      match k.text with
      | ';' :: r => cases bound (k.at_ r)
      | _ => none

def choice (k : Cursor) : Option Cursor := do
  let k ←
    match pause self true k with
    | none => some k
    | some (_, j) =>
      if j.text.head? == some ';' || ((word? j.text).any fun p => p.1 == "when" || p.1 == "in") then
        some k
      else run self (.statement (.body ["when", "in", "else", "end"])) j
  cases self (' ' :: k.text) k

/-- The name of a class or module, perhaps with the modules it lies in. -/
def constantPath (k : Cursor) : Option Cursor :=
  let k := skip self k
  match k.text with
  | ':' :: ':' :: r => parts (' ' :: r) r k
  | t => parts (' ' :: t) t k
where
  parts : Text → Text → Cursor → Option Cursor
    | [], _, _ => none
    | _ :: bound, t, k => do
      let (w, r) ← word? t
      match r with
      | ':' :: ':' :: u => parts bound u k
      | r => if isConstant w then some (k.at_ r) else none

def classDefinition (k : Cursor) : Option Cursor := do
  let j := skip self k
  match j.text with
  | '<' :: '<' :: r => do
    let k ← run self (.expression { commands := false }) (j.at_ r)
    let k ← terminator self k
    body self k
  | _ => do
    let k ← constantPath self j
    match pause self true k with
    | some (_, j) =>
      match j.text with
      | '<' :: r => do
        let j ← run self (.expression {}) (j.at_ r)
        let j ← terminator self j
        body self j
      | _ => body self k
    | none => body self k

def moduleDefinition (k : Cursor) : Option Cursor := do
  let k ← constantPath self k
  body self k

/-- What follows the parameters of a method: its value after an equals sign, or its body. -/
def methodBody (c : Context) (needsBreak : Bool) (k : Cursor) : Option Cursor :=
  match pause self true k with
  | none => body self k
  | some (_, j) =>
    match equals? j.text with
    | some r => do
      let j ← run self (.expression c.tight) (j.at_ r)
      match sameLine? self "rescue" j with
      | some i => run self (.expression c.tight) i
      | none => some j
    | none => if needsBreak then (terminator self k).bind (body self) else body self k

/-- Parameters without parentheses, up to the end of the line. -/
def bareParameters (k : Cursor) : Option Cursor := run self (.parameters '\n') k

def methodRest (c : Context) (k : Cursor) : Option Cursor :=
  match pause self true k with
  | none => body self k
  | some (_, j) =>
    match j.text with
    | '(' :: r => do
      let j ← run self (.parameters ')') (j.at_ r)
      methodBody self c false j
    | ';' :: _ | '=' :: _ => methodBody self c true k
    | _ => do
      let j ← bareParameters self j
      let j ← terminator self j
      body self j

/-- A method from after the word `def`. -/
def methodDefinition (c : Context) (k : Cursor) : Option Cursor := do
  let k := skip self k
  let k ←
    match owner k with
    | some j => (skip self j |> fun j => j.move (methodName? j.text))
    | none => k.move (methodName? k.text)
  methodRest self c k
where
  /-- The object that a method is defined on, and the dot behind it. -/
  owner (k : Cursor) : Option Cursor := do
    let j ←
      match k.text with
      | '(' :: r => do
        let j ← run self (.expression { breaks := false }) (k.at_ r)
        mark? self ')' j
      | t =>
        match word? t with
        | some (_, r) => some (k.at_ r)
        | none => k.move (sigilName? t)
    match j.text with
    | '.' :: r => some (j.at_ r)
    | ':' :: ':' :: r => some (j.at_ r)
    | _ => none

/-- A function from after its arrow. -/
def lambda (k : Cursor) : Option Cursor := do
  let k := skip self k
  let k ←
    match k.text with
    | '(' :: r => run self (.parameters ')') (k.at_ r)
    | '{' :: _ => some k
    | t => if (keyword? "do" t).isSome then some k else run self (.parameters '{') k
  let k := skip self k
  match k.text with
  | '{' :: r => braceBlock self (k.at_ r)
  | t => (keyword? "do" t).bind fun r => doBlock self (k.at_ r)

/-- A word that leaves a body, perhaps with values. -/
def jump (c : Context) (k : Cursor) : Outcome :=
  match k.text with
  | '(' :: r => do
    let j ← run self (.arguments ')') (k.at_ r)
    self (.tail c .other) j
  | _ =>
    match pause self c.breaks k with
    | none => some (.other, k)
    | some (spaced, j) =>
      if c.commands && (j.text.head? == some '{' || startsArgument c spaced j.text) then do
        let i ← commandArguments self c (' ' :: j.text) j
        some ({ command := true }, i)
      else self (.tail c .other) k

/-- A symbol from after its colon. -/
def symbol (k : Cursor) : Option Cursor :=
  match k.text with
  | '"' :: r => run self (.literal (.ofQuote '"' true) 1) (k.at_ r)
  | '\'' :: r => run self (.literal (.ofQuote '\'' false) 1) (k.at_ r)
  | t => k.move (symbolName? t)

/-- A value that starts with a word. -/
def wordPrimary (c : Context) (w : String) (k : Cursor) : Outcome :=
  let settled (r : Option Cursor) : Outcome := r.bind (self (.tail c .other))
  match w with
  | "def" => settled (methodDefinition self c k)
  | "class" => settled (classDefinition self k)
  | "module" => settled (moduleDefinition self k)
  | "begin" => settled (body self k)
  | "if" | "unless" => settled (branches self (' ' :: k.text) k)
  | "while" | "until" => settled (conditionLoop self k)
  | "for" => settled (iteration self k)
  | "case" => settled (choice self k)
  | "return" | "break" | "next" | "yield" | "redo" | "retry" => jump self c k
  | "nil" | "true" | "false" => self (.tail c { place := true }) k
  | w => self (.tail c { Shape.name with place := !isMarked w }) k

def primary (c : Context) (k : Cursor) : Outcome :=
  let k := skip self k
  let settled (r : Option Cursor) : Outcome := r.bind (self (.tail c .other))
  match k.text with
  | '-' :: '>' :: r => settled (lambda self (k.at_ r))
  | ':' :: ':' :: r => do
    let (w, r) ← word? (r.dropWhile isSpace)
    if isConstant w then self (.tail c { place := true }) (k.at_ r) else none
  | ':' :: r => settled (symbol self (k.at_ r))
  | '(' :: r => settled ((run self (.statements []) (k.at_ r)).bind (mark? self ')'))
  | '[' :: r => settled (run self (.arguments ']') (k.at_ r))
  | '{' :: r => settled (run self (.arguments '}') (k.at_ r))
  | '"' :: r => string self c (.ofQuote '"' true) (k.at_ r)
  | '\'' :: r => string self c (.ofQuote '\'' false) (k.at_ r)
  | '`' :: r => settled (run self (.literal (.ofQuote '`' true) 1) (k.at_ r))
  | '/' :: r => settled (run self (.literal ⟨'/', '/', true, true⟩ 1) (k.at_ r))
  | '%' :: r => (percent? false r).bind fun p => settled (run self (.literal p.1 1) (k.at_ p.2))
  | '<' :: _ => (heredoc? k.text).bind fun p => self (.tail c .other) ⟨p.2, k.pending ++ [p.1]⟩
  | '?' :: r => settled (k.move (character? r))
  | t =>
    match sigilName? t with
    | some r => self (.tail c .name) (k.at_ r)
    | none =>
      match word? t with
      | some (w, r) => wordPrimary self c w (k.at_ r)
      | none => settled (k.move (number? t))

/-- What an assignment does with a value that can be assigned to. -/
def assigned (c : Context) (s : Shape) (k : Cursor) : Outcome :=
  if !s.place then some (s, k)
  else
    match pause self c.breaks k with
    | none => some (s, k)
    | some (_, j) =>
      let single (r : Text) : Outcome :=
        (values self c (j.at_ r)).map fun p => ({ command := p.1.command }, p.2)
      match equals? j.text with
      | some r => single r
      | none =>
        match augmented? j.text with
        | some r => single r
        | none =>
          match j.text with
          | ',' :: r =>
            if c.listed then some (s, k)
            else (targets self c (' ' :: r) (j.at_ r)).map fun p => ({ command := p.1.command }, p.2)
          | _ => some (s, k)

def operand (c : Context) (k : Cursor) : Outcome :=
  let k := skip self k
  let signed (r : Text) : Outcome :=
    (self (.operand c) (k.at_ r)).map fun p => ({ command := p.1.command }, p.2)
  match k.text with
  | '-' :: '>' :: _ => (self (.primary c) k).bind fun p => assigned self c p.1 p.2
  | '-' :: r | '+' :: r | '!' :: r | '~' :: r => signed r
  | '.' :: '.' :: '.' :: r | '.' :: '.' :: r => plain (run self (.operand c.tight) (k.at_ r))
  | t =>
    match word? t with
    | some ("not", r) =>
      (self (.expression c) (k.at_ r)).map fun p => ({ command := p.1.command }, p.2)
    | some ("defined?", r) => signed r
    | _ => (self (.primary c) k).bind fun p => assigned self c p.1 p.2

/-- The operators after an operand and what they join it with. -/
def operators (c : Context) : Text → Shape → Cursor → Outcome
  | [], _, _ => none
  | _ :: bound, s, k =>
    match pause self c.breaks k with
    | none => some (s, k)
    | some (_, j) =>
      match word? j.text with
      | some (w, r) =>
        if w == "and" || w == "or" then do
          let (s, i) ← self (.operand c) (j.at_ r)
          operators c bound s i
        else if w == "in" && c.commands && !s.command && !c.closers.contains w then
          plain (run self (.patterns ' ') (j.at_ r))
        else some (s, k)
      | none =>
        if s.command then some (s, k)
        else
          match j.text with
          | '=' :: '>' :: r =>
            if c.commands && !c.listed then plain (run self (.patterns ' ') (j.at_ r)) else some (s, k)
          | '.' :: '.' :: '.' :: r | '.' :: '.' :: r =>
            match pause self c.breaks (j.at_ r) with
            | none => some (.other, j.at_ r)
            | some (_, i) =>
              if startsOperand c i.text then do
                let (_, i) ← self (.operand c.tight) i
                operators c bound .other i
              else operators c bound .other (j.at_ r)
          | '?' :: r => do
            let inner : Context := { breaks := false, commands := false, listed := true }
            let i ← run self (.expression inner) (j.at_ r)
            let i ← mark? self ':' i
            plain (run self (.expression c.tight) i)
          | t =>
            match binary? c.bars t with
            | some r => do
              let (_, i) ← self (.operand c.tight) (j.at_ r)
              operators c bound .other i
            | none => some (s, k)

def expression (c : Context) (k : Cursor) : Outcome := do
  let (s, k) ← self (.operand c) k
  operators self c (' ' :: k.text) s k

/-! ### Statements -/

/-- Conditions and loops written after a statement. -/
def modifiers (c : Context) : Text → Cursor → Option Cursor
  | [], _ => none
  | _ :: bound, k =>
    match pause self c.breaks k with
    | none => some k
    | some (_, j) =>
      match word? j.text with
      | some (w, r) =>
        if ["if", "unless", "while", "until", "rescue"].contains w then do
          let i ← run self (.expression { c with commands := true }) (j.at_ r)
          modifiers c bound i
        else some k
      | none => some k

/-- Names of methods with commas between them. -/
def methodNames : Text → Cursor → Option Cursor
  | [], _ => none
  | _ :: bound, k => do
    let k ← methodNameAt k
    match pause self true k with
    | some (_, j) =>
      match j.text with
      | ',' :: r => methodNames bound (j.at_ r)
      | _ => some k
    | none => some k
where
  methodNameAt (k : Cursor) : Option Cursor :=
    let k := skip self k
    match k.text with
    | ':' :: r => symbol self (k.at_ r)
    | t => k.move (methodName? t)

def statement (c : Context) (k : Cursor) : Option Cursor := do
  let k := skip self k
  let simple : Option Cursor := run self (.expression c) k
  let braced (r : Text) : Option Cursor :=
    match (mark? self '{' (k.at_ r)).bind (run self (.statements [])) with
    | some j => mark? self '}' j
    | none => none
  let j ←
    match k.text with
    | '*' :: _ => (groupedTargets self c k).map (·.2)
    | '(' :: _ =>
      match if startsGroup k.text then groupedTargets self c k else none with
      | some (_, j) => some j
      | none => simple
    | t =>
      match word? t with
      | some ("alias", r) => do
        let j ← methodNames.methodNameAt self (k.at_ r)
        methodNames.methodNameAt self j
      | some ("undef", r) => methodNames self (' ' :: r) (k.at_ r)
      | some ("BEGIN", r) | some ("END", r) => braced r
      | _ => simple
  modifiers self c (' ' :: j.text) j

/-- Does the text start with a word that closes the body? -/
def closes (closers : List String) (t : Text) : Bool :=
  match word? t with
  | some (w, r) =>
    closers.contains w && (w != "__END__" || r.head? == some '\n' || r.head? == some '\r')
  | none => false

/-- Statements up to a word that closes them, a closing bracket, or the end. -/
def statements (closers : List String) : Text → Cursor → Option Cursor
  | [], k => some k
  | _ :: bound, k => do
    let (_, k) ← pause self false k
    match k.text with
    | [] => some k
    | ';' :: r => statements closers bound (k.at_ r)
    | c :: _ =>
      if c == ')' || c == ']' || c == '}' || closes closers k.text then some k
      else do
        let j ← run self (.statement (.body closers)) k
        match pause self true j with
        | none => statements closers bound j
        | some (_, i) =>
          match i.text with
          | ';' :: r => statements closers bound (i.at_ r)
          | _ => some i

/-! ### Parameters and patterns -/

/-- One parameter; inside bars its default ends at a bar. -/
def parameter (close : Char) (k : Cursor) : Option Cursor :=
  let c : Context :=
    { breaks := close == '\n', commands := false, listed := true, bars := close == '|',
      loopHead := close == '{' }
  let k := skip self k
  let named (r : Text) : Option Cursor :=
    match pause self c.breaks (k.at_ r) with
    | some (_, j) =>
      match word? j.text with
      | some (w, u) => if w == "do" && close == '{' then some (k.at_ r) else some (j.at_ u)
      | none => some (k.at_ r)
    | none => some (k.at_ r)
  match k.text with
  | '*' :: '*' :: r | '*' :: r | '&' :: r => named r
  | '.' :: '.' :: '.' :: r => some (k.at_ r)
  | '(' :: r => run self (.parameters ')') (k.at_ r)
  | t =>
    match word? t with
    | none => none
    | some (_, r) =>
      match colon? r with
      | some u =>
        match pause self c.breaks (k.at_ u) with
        | some (_, j) =>
          if startsOperand c j.text then run self (.expression c) j else some (k.at_ u)
        | none => some (k.at_ u)
      | none =>
        match pause self c.breaks (k.at_ r) with
        | some (_, j) =>
          match equals? j.text with
          | some u => run self (.expression c) (j.at_ u)
          | none => some (k.at_ r)
        | none => some (k.at_ r)

/-- Parameters up to what closes them: a bracket or bar, which is read over, or the end of the line
or an opening brace, which is not. A comma may come last before a bar, not before a bracket. -/
def parametersUpTo (close : Char) : Text → Cursor → Option Cursor
  | [], _ => none
  | _ :: bound, k =>
    let open_ := close == '\n' || close == '{'
    match mark? self close k with
    | some j => if open_ then some k else some j
    | none => do
      let j ← if (mark? self ';' k).isSome && !open_ then some k else parameter self close k
      match pause self (close == '\n') j with
      | none => some j
      | some (_, i) =>
        match i.text with
        | ',' :: r =>
          if close == ')' && (mark? self ')' (i.at_ r)).isSome then none
          else parametersUpTo close bound (i.at_ r)
        | ';' :: r => if open_ then some j else locals (' ' :: r) (i.at_ r)
        | d :: r =>
          if open_ then some j else if d == close then some (i.at_ r) else none
        | [] => if open_ then some j else none
where
  locals : Text → Cursor → Option Cursor
    | [], _ => none
    | _ :: bound, k => do
      let k := skip self k
      let (_, r) ← word? k.text
      let k := skip self (k.at_ r)
      match k.text with
      | ',' :: u => locals bound (k.at_ u)
      | d :: u => if d == close then some (k.at_ u) else none
      | [] => none

/-- What may follow a key in a pattern: nothing, or a pattern. -/
def keyedPattern (close : Char) (k : Cursor) : Option Cursor :=
  match pause self (close == ' ') k with
  | none => some k
  | some (_, j) =>
    if j.text.head? == some '^' || startsOperand { closers := ["then"] } j.text then
      run self .pattern j
    else some k

/-- One item of a list of patterns. -/
def patternItem (close : Char) (k : Cursor) : Option Cursor :=
  let k := skip self k
  let named (r : Text) : Option Cursor :=
    match pause self (close == ' ') (k.at_ r) with
    | none => some (k.at_ r)
    | some (_, j) =>
      match word? j.text with
      | some (w, u) => if isStop { closers := ["then"] } w then some (k.at_ r) else some (j.at_ u)
      | none => some (k.at_ r)
  match k.text with
  | '*' :: '*' :: r | '*' :: r => named r
  | t =>
    match key? t with
    | some r => keyedPattern self close (k.at_ r)
    | none =>
      match t with
      | '"' :: r =>
        match run self (.literal (.ofQuote '"' true) 1) (k.at_ r) with
        | some j =>
          match colon? j.text with
          | some u => keyedPattern self close (j.at_ u)
          | none => run self .pattern k
        | none => none
      | _ => run self .pattern k

/-- Patterns up to the closing bracket; a blank stands for none. -/
def patternsUpTo (close : Char) : Text → Cursor → Option Cursor
  | [], _ => none
  | _ :: bound, k =>
    match if close == ' ' then none else mark? self close k with
    | some j => some j
    | none => do
      let j ← patternItem self close k
      match pause self (close == ' ') j with
      | none => some j
      | some (_, i) =>
        match i.text with
        | ',' :: r =>
          if close == ' ' && (pause self true (i.at_ r)).isNone then some (i.at_ r)
          else patternsUpTo close bound (i.at_ r)
        | d :: r =>
          if close == ' ' then some j else if d == close then some (i.at_ r) else none
        | [] => if close == ' ' then some j else none

/-- A pattern without alternatives. -/
def basicPattern (k : Cursor) : Option Cursor :=
  let k := skip self k
  let c : Context := { closers := ["then"], commands := false, listed := true, bars := true }
  let ranged (k : Cursor) : Option Cursor :=
    match pause self true k with
    | some (_, j) =>
      match j.text with
      | '.' :: '.' :: '.' :: r | '.' :: '.' :: r =>
        match pause self true (j.at_ r) with
        | some (_, i) => if startsOperand c i.text then run self (.primary c) i else some (j.at_ r)
        | none => some (j.at_ r)
      | _ => some k
    | none => some k
  match k.text with
  | '[' :: r => run self (.patterns ']') (k.at_ r)
  | '{' :: r => run self (.patterns '}') (k.at_ r)
  | '(' :: r => do
    let j ← run self .pattern (k.at_ r)
    mark? self ')' j
  | '^' :: '(' :: r => do
    let j ← run self (.expression { breaks := false }) (k.at_ r)
    mark? self ')' j
  | '^' :: r =>
    match sigilName? r with
    | some u => some (k.at_ u)
    | none => (word? r).map fun p => k.at_ p.2
  | '.' :: '.' :: _ | '-' :: _ | '+' :: _ => run self (.operand c) k
  | t =>
    match word? t with
    | some (w, r) =>
      if isConstant w then do
        let r ← path (' ' :: r) r
        match r with
        | '(' :: u => run self (.patterns ')') (k.at_ u)
        | '[' :: u => run self (.patterns ']') (k.at_ u)
        | r => ranged (k.at_ r)
      else some (k.at_ r)
    | none => (run self (.primary c) k).bind ranged
where
  path : Text → Text → Option Text
    | [], _ => none
    | _ :: bound, t =>
      match t with
      | ':' :: ':' :: r => (word? r).bind fun p => path bound p.2
      | t => some t

/-- A pattern with its alternatives and the names given to what it matches. -/
def patternUpTo : Text → Cursor → Option Cursor
  | [], _ => none
  | _ :: bound, k => do
    let k ← basicPattern self k
    match pause self true k with
    | none => some k
    | some (_, j) =>
      match j.text with
      | '|' :: r => patternUpTo bound (j.at_ r)
      | _ => naming (' ' :: j.text) k
where
  naming : Text → Cursor → Option Cursor
    | [], _ => none
    | _ :: bound, k =>
      match pause self true k with
      | some (_, j) =>
        match j.text with
        | '=' :: '>' :: r => do
          let i := skip self (j.at_ r)
          let (_, u) ← word? i.text
          naming bound (i.at_ u)
        | _ => some k
      | none => some k

end expressions

/-- One step of recognition, for rules that call each other through `self`. -/
def level (self : Self) : Rule → Cursor → Outcome
  | .statements closers, k => plain (statements self closers (' ' :: k.text) k)
  | .statement c, k => plain (statement self c k)
  | .expression c, k => expression self c k
  | .operand c, k => operand self c k
  | .primary c, k => primary self c k
  | .tail c shape, k => tail self c shape k
  | .arguments close, k => plain (argumentsUpTo self close (' ' :: k.text) k)
  | .literal l depth, k => plain (literal self l (' ' :: k.text) depth k)
  | .parameters close, k => plain (parametersUpTo self close (' ' :: k.text) k)
  | .patterns close, k => plain (patternsUpTo self close (' ' :: k.text) k)
  | .pattern, k => plain (patternUpTo self (' ' :: k.text) k)

/-- What a rule recognises within `depth` nested calls. -/
def derive : Nat → Self
  | 0 => fun _ _ => none
  | depth + 1 => level (derive depth)

/-- A bound on the depth of calls that recognising a text takes. -/
def depthFor (t : Text) : Nat := 12 * (t.length + 4)

/-- Is the text a program? The mark that hides the rest ends it. -/
def isProgram (t : Text) : Bool :=
  match derive (depthFor t) (.statements ["__END__"]) { text := t } with
  | some (_, k) => k.text.isEmpty || closes ["__END__"] k.text
  | none => false

end Excerpt.Ruby
