import Excerpt.Python.Token

/-!
The grammar of Python modules, as a recogniser on tokens. An expression comes with what it may stand
for on the left of an assignment, so targets and expressions are read by the same rules. Rules call
each other through `self`, and `derive` ties the knot with a bound on the depth of calls.
-/
namespace Excerpt.Python

/-- What an expression may stand for. -/
structure Shape where
  /-- A name, attribute or item, perhaps in parentheses. -/
  single : Bool
  /-- Any target of an assignment. -/
  target : Bool
  /-- Anything that can be deleted. -/
  erasable : Bool
  /-- A star stands in front. -/
  starred : Bool
deriving DecidableEq, Repr

namespace Shape

def other : Shape := ⟨false, false, false, false⟩

def place : Shape := ⟨true, true, true, false⟩

def star (s : Shape) : Shape := ⟨false, s.target && !s.starred, false, true⟩

def group (s : Shape) : Shape := ⟨s.single, s.target && !s.starred, s.erasable, false⟩

/-- The shape of a sequence with these items. -/
def sequence (items : List Shape) : Shape :=
  ⟨false, items.all (·.target), items.all (·.erasable), false⟩

end Shape

inductive Rule where
  | statements
  | statement
  | simpleLine
  | block
  | elseBlock
  | handlers (star : Bool)
  | elifs
  | cases
  | expression
  | named
  | disjunction
  | bitOr
  | operand
  | trailers (shape : Shape)
  | starList
  | starTargets
  | clauses
  | arguments (generator keywords doubled : Bool)
  | slices
  | parameters (typed slash defaults star : Bool)
  | afterStar (typed needed : Bool)
  | pattern
  | classItems (keywords : Bool)
  | mappingItems
  | fieldGroup
deriving DecidableEq, Repr

abbrev Tokens := List Token

abbrev Outcome := Option (Shape × Tokens)

abbrev Self := Rule → Tokens → Outcome

def keywords : List String :=
  ["False", "None", "True", "and", "as", "assert", "async", "await", "break", "class", "continue",
   "def", "del", "elif", "else", "except", "finally", "for", "from", "global", "if", "import", "in",
   "is", "lambda", "nonlocal", "not", "or", "pass", "raise", "return", "try", "while", "with",
   "yield"]

def isKeyword (w : String) : Bool := keywords.contains w

/-- The tokens after a given word. -/
def word? (w : String) : Tokens → Option Tokens
  | .word v :: r => if v == w then some r else none
  | _ => none

/-- The tokens after a given operator. -/
def op? (o : String) : Tokens → Option Tokens
  | .op p :: r => if p == o then some r else none
  | _ => none

/-- The tokens after a name that is no keyword. -/
def name? : Tokens → Option Tokens
  | .word v :: r => if isKeyword v then none else some r
  | _ => none

def newline? : Tokens → Option Tokens
  | .newline :: r => some r
  | _ => none

def startsOp (o : String) (ts : Tokens) : Bool := (op? o ts).isSome

def startsWord (w : String) (ts : Tokens) : Bool := (word? w ts).isSome

/-- An expression that stands for nothing else. -/
def plain (r : Option Tokens) : Outcome := r.map fun ts => (Shape.other, ts)

def Outcome.rest (o : Outcome) : Option Tokens := o.map (·.2)

section expressions
variable (self : Self)

/-- The rest after one rule, its shape dropped. -/
def run (rule : Rule) (ts : Tokens) : Option Tokens := (self rule ts).map (·.2)

def lambda (ts : Tokens) : Outcome := do
  let ts ← run self (.parameters false false false false) ts
  let ts ← op? ":" ts
  plain (run self .expression ts)

/-- A disjunction, or a choice between two values; without its `else` the condition is left. -/
def expression (ts : Tokens) : Outcome :=
  match word? "lambda" ts with
  | some ts => lambda self ts
  | none => do
    let (shape, rest) ← self .disjunction ts
    let choice : Option Tokens := do
      let ts ← word? "if" rest
      let ts ← run self .disjunction ts
      let ts ← word? "else" ts
      run self .expression ts
    match choice with
    | some ts => some (.other, ts)
    | none => some (shape, rest)

/-- An expression, or a name bound to one. -/
def named (ts : Tokens) : Outcome :=
  match (name? ts).bind (op? ":=") with
  | some ts => plain (run self .expression ts)
  | none => do
    let (shape, ts) ← self .expression ts
    if startsOp ":=" ts then none else some (shape, ts)

def comparison? : Tokens → Option Tokens
  | .op o :: r => if ["==", "!=", "<=", "<", ">=", ">"].contains o then some r else none
  | .word "in" :: r => some r
  | .word "not" :: .word "in" :: r => some r
  | .word "is" :: .word "not" :: r => some r
  | .word "is" :: r => some r
  | _ => none

/-- The comparisons after an operand. -/
def comparisons : Nat → Tokens → Option Tokens
  | 0, _ => none
  | fuel + 1, ts =>
    match comparison? ts with
    | some ts => do
      let ts ← run self .bitOr ts
      comparisons fuel ts
    | none => some ts

/-- Comparisons joined by `and` and `or`, each perhaps negated. -/
def disjunction (ts : Tokens) : Outcome :=
  match word? "not" ts with
  | some ts => plain (run self .disjunction ts)
  | none => do
    let (shape, ts) ← self .bitOr ts
    let rest ← comparisons self (ts.length + 1) ts
    let shape := if rest.length < ts.length then .other else shape
    match rest with
    | .word w :: r =>
      if w == "and" || w == "or" then plain (run self .disjunction r) else some (shape, rest)
    | _ => some (shape, rest)

def binaryOperators : List String :=
  ["|", "^", "&", "<<", ">>", "+", "-", "*", "/", "//", "%", "@"]

/-- Operands joined by arithmetic and bit operators. -/
def bitOr (ts : Tokens) : Outcome := do
  let (shape, ts) ← self .operand ts
  match ts with
  | .op o :: r =>
    if binaryOperators.contains o then plain (run self .bitOr r) else some (shape, ts)
  | _ => some (shape, ts)

/-- The tokens after all strings in front. They must all be bytes or all be text, and every
replacement field an expression. -/
def strings (bytes : Bool) : Tokens → Option Tokens
  | .string b fields :: r =>
    if b == bytes && fields.all (fun f => (self .fieldGroup f).isSome) then strings bytes r else none
  | r => some r

/-- An item of a display, perhaps starred. -/
def starNamed (ts : Tokens) : Outcome :=
  match op? "*" ts with
  | some ts => (self .bitOr ts).map fun p => (p.1.star, p.2)
  | none => self .named ts

/-- The rest of a display after its first item; a comma may come last. -/
def moreItems (close : String) : Nat → List Shape → Tokens → Option (List Shape × Tokens)
  | 0, _, _ => none
  | fuel + 1, acc, ts =>
    match op? "," ts with
    | none => some (acc, ts)
    | some ts =>
      if startsOp close ts then some (acc, ts)
      else do
        let (shape, ts) ← starNamed self ts
        moreItems close fuel (shape :: acc) ts

/-- A tuple, a group or a generator, from after the opening parenthesis. -/
def parenthesized (ts : Tokens) : Outcome :=
  match op? ")" ts with
  | some ts => some (.sequence [], ts)
  | none =>
    match word? "yield" ts with
    | some ts => do
      let ts ←
        match word? "from" ts with
        | some ts => run self .expression ts
        | none => if startsOp ")" ts then some ts else run self .starList ts
      plain (op? ")" ts)
    | none => do
      let (first, ts) ← starNamed self ts
      match op? ")" ts with
      | some ts => if first.starred then none else some (first.group, ts)
      | none =>
        if startsOp "," ts then do
          let (items, ts) ← moreItems self ")" (ts.length + 1) [first] ts
          let ts ← op? ")" ts
          some (.sequence items, ts)
        else if first.starred then none
        else do
          let ts ← run self .clauses ts
          plain (op? ")" ts)

/-- A list or a comprehension, from after the opening bracket. -/
def bracketed (ts : Tokens) : Outcome :=
  match op? "]" ts with
  | some ts => some (.sequence [], ts)
  | none => do
    let (first, ts) ← starNamed self ts
    if startsWord "for" ts || startsWord "async" ts then
      if first.starred then none
      else do
        let ts ← run self .clauses ts
        plain (op? "]" ts)
    else do
      let (items, ts) ← moreItems self "]" (ts.length + 1) [first] ts
      let ts ← op? "]" ts
      some (.sequence items, ts)

/-- The rest of a dictionary display. -/
def moreEntries : Nat → Tokens → Option Tokens
  | 0, _ => none
  | fuel + 1, ts =>
    match op? "," ts with
    | none => op? "\x7d" ts
    | some ts =>
      match op? "\x7d" ts with
      | some ts => some ts
      | none =>
        match op? "**" ts with
        | some ts => do
          let ts ← run self .bitOr ts
          moreEntries fuel ts
        | none => do
          let ts ← run self .expression ts
          let ts ← op? ":" ts
          let ts ← run self .expression ts
          moreEntries fuel ts

/-- A dictionary, a set or a comprehension, from after the opening brace. -/
def braced (ts : Tokens) : Outcome :=
  match op? "\x7d" ts with
  | some ts => some (.other, ts)
  | none =>
    match op? "**" ts with
    | some ts => do
      let ts ← run self .bitOr ts
      plain (moreEntries self (ts.length + 1) ts)
    | none => do
      let bound := ((name? ts).bind (op? ":=")).isSome
      let (first, ts) ← starNamed self ts
      match op? ":" ts with
      | some ts' =>
        if first.starred || bound then none
        else do
          let ts ← run self .expression ts'
          if startsWord "for" ts || startsWord "async" ts then do
            let ts ← run self .clauses ts
            plain (op? "\x7d" ts)
          else plain (moreEntries self (ts.length + 1) ts)
      | none =>
        if startsWord "for" ts || startsWord "async" ts then
          if first.starred then none
          else do
            let ts ← run self .clauses ts
            plain (op? "\x7d" ts)
        else do
          let (_, ts) ← moreItems self "\x7d" (ts.length + 1) [first] ts
          plain (op? "\x7d" ts)

def atom : Tokens → Outcome
  | .word w :: r =>
    if ["True", "False", "None"].contains w then some (.other, r)
    else if isKeyword w then none
    else some (.place, r)
  | .number _ :: r => some (.other, r)
  | .string b f :: r => plain (strings self b (.string b f :: r))
  | .op "(" :: r => parenthesized self r
  | .op "[" :: r => bracketed self r
  | .op "\x7b" :: r => braced self r
  | .op "..." :: r => some (.other, r)
  | _ => none

/-- Attributes, calls and items after an atom. -/
def trailers (shape : Shape) (ts : Tokens) : Outcome :=
  match ts with
  | .op "." :: r => do
    let r ← name? r
    self (.trailers .place) r
  | .op "(" :: r => do
    let r ← run self (.arguments true false false) r
    self (.trailers .other) r
  | .op "[" :: r => do
    let r ← run self .slices r
    let r ← op? "]" r
    self (.trailers .place) r
  | _ => some (shape, ts)

def primary (ts : Tokens) : Outcome := do
  let (shape, ts) ← atom self ts
  self (.trailers shape) ts

/-- Signs, then an atom with all that follows it, then a power. -/
def operand (ts : Tokens) : Outcome :=
  match ts with
  | .op o :: r =>
    if o == "+" || o == "-" || o == "~" then plain (run self .operand r) else power ts
  | _ => power ts
where
  power (ts : Tokens) : Outcome := do
    let (shape, rest) ←
      match word? "await" ts with
      | some ts => (primary self ts).map fun p => (Shape.other, p.2)
      | none => primary self ts
    match op? "**" rest with
    | some r => plain (run self .operand r)
    | none => some (shape, rest)

/-- Does an expression end here, so that a comma before is the last one? -/
def listEnds : Tokens → Bool
  | .op o :: _ =>
    [")", "]", "\x7d", "=", ":", ";", "+=", "-=", "*=", "/=", "//=", "%=", "@=", "&=", "|=", "^=",
      ">>=", "<<=", "**="].contains o
  | .newline :: _ => true
  | .stop :: _ => true
  | _ => false

/-- Expressions between commas, each perhaps starred. -/
def starList (ts : Tokens) : Outcome := do
  let (first, ts) ← item ts
  if startsOp "," ts then do
    let (items, ts) ← more (ts.length + 1) [first] ts
    some (.sequence items, ts)
  else some (first, ts)
where
  item (ts : Tokens) : Outcome :=
    match op? "*" ts with
    | some ts => (self .bitOr ts).map fun p => (p.1.star, p.2)
    | none => self .expression ts
  more : Nat → List Shape → Tokens → Option (List Shape × Tokens)
    | 0, _, _ => none
    | fuel + 1, acc, ts =>
      match op? "," ts with
      | none => some (acc, ts)
      | some ts =>
        if listEnds ts then some (acc, ts)
        else do
          let (shape, ts) ← item ts
          more fuel (shape :: acc) ts

/-- Targets of a loop, up to the word `in`. -/
def starTargets (ts : Tokens) : Outcome := do
  let (first, ts) ← item ts
  let (items, ts) ← more (ts.length + 1) [first] ts
  if items.all (·.target) then some (.other, ts) else none
where
  item (ts : Tokens) : Outcome :=
    match op? "*" ts with
    | some ts => (primary self ts).map fun p => (p.1.star, p.2)
    | none => primary self ts
  more : Nat → List Shape → Tokens → Option (List Shape × Tokens)
    | 0, _, _ => none
    | fuel + 1, acc, ts =>
      match op? "," ts with
      | none => some (acc, ts)
      | some ts =>
        if startsWord "in" ts then some (acc, ts)
        else do
          let (shape, ts) ← item ts
          more fuel (shape :: acc) ts

/-- The conditions of a comprehension clause. -/
def conditions : Nat → Tokens → Option Tokens
  | 0, _ => none
  | fuel + 1, ts =>
    match word? "if" ts with
    | some ts => do
      let ts ← run self .disjunction ts
      conditions fuel ts
    | none => some ts

/-- One or more clauses of a comprehension. -/
def clauses (ts : Tokens) : Option Tokens := do
  let ts := (word? "async" ts).getD ts
  let ts ← word? "for" ts
  let ts ← run self .starTargets ts
  let ts ← word? "in" ts
  let ts ← run self .disjunction ts
  let ts ← conditions self (ts.length + 1) ts
  if startsWord "for" ts || startsWord "async" ts then run self .clauses ts else some ts

/-- The arguments of a call, up to and with the closing parenthesis. After a keyword no plain
argument may come, after a double star only keywords and double stars. `generator` says that a bare
generator may be the only argument. -/
def arguments (generator keywordSeen doubled : Bool) (ts : Tokens) : Option Tokens :=
  let next (keywordSeen doubled : Bool) (ts : Tokens) : Option Tokens :=
    match op? ")" ts with
    | some ts => some ts
    | none => do
      let ts ← op? "," ts
      run self (.arguments false keywordSeen doubled) ts
  match op? ")" ts with
  | some ts => some ts
  | none =>
    match op? "**" ts with
    | some ts => do
      let ts ← run self .expression ts
      next true true ts
    | none =>
      match op? "*" ts with
      | some ts =>
        if doubled then none
        else do
          let ts ← run self .expression ts
          next keywordSeen doubled ts
      | none =>
        match (name? ts).bind (op? "=") with
        | some ts => do
          let ts ← run self .expression ts
          next true doubled ts
        | none =>
          if keywordSeen then none
          else do
            let ts ← run self .named ts
            if startsOp "=" ts then none
            else if generator && (startsWord "for" ts || startsWord "async" ts) then do
              let ts ← run self .clauses ts
              op? ")" ts
            else next false false ts

/-- One item of a subscript. A named value is no bound. -/
def slice (ts : Tokens) : Option Tokens :=
  match op? "*" ts with
  | some ts => run self .expression ts
  | none =>
    if ((name? ts).bind (op? ":=")).isSome then run self .named ts
    else do
      let bound (ts : Tokens) : Option Tokens :=
        if startsOp ":" ts || startsOp "," ts || startsOp "]" ts then some ts
        else run self .expression ts
      let ts ← if startsOp ":" ts then some ts else run self .expression ts
      match op? ":" ts with
      | none => some ts
      | some ts => do
        let ts ← bound ts
        match op? ":" ts with
        | none => some ts
        | some ts => bound ts

/-- The items of a subscript, up to the closing bracket. -/
def slices (ts : Tokens) : Option Tokens := do
  let ts ← slice self ts
  match op? "," ts with
  | none => some ts
  | some ts => if startsOp "]" ts then some ts else run self .slices ts

end expressions

section parameters
variable (self : Self)

/-- Does a parameter list end here? -/
def parametersEnd (typed : Bool) (ts : Tokens) : Bool := startsOp (if typed then ")" else ":") ts

def annotation (typed : Bool) (ts : Tokens) : Option Tokens :=
  if typed then
    match op? ":" ts with
    | some ts => run self .expression ts
    | none => some ts
  else some ts

/-- A default value that may follow, and whether there is one. -/
def default? (ts : Tokens) : Option (Bool × Tokens) :=
  match op? "=" ts with
  | some ts => (run self .expression ts).map fun ts => (true, ts)
  | none => some (false, ts)

/-- The comma after a parameter, or the end of the list. -/
def nextParameter (typed : Bool) (more : Tokens → Option Tokens) (ts : Tokens) : Option Tokens :=
  match op? "," ts with
  | some ts => if parametersEnd typed ts then some ts else more ts
  | none => if parametersEnd typed ts then some ts else none

/-- The parameter of all keywords, the last one. -/
def doubleStar (typed : Bool) (ts : Tokens) : Option Tokens := do
  let ts ← name? ts
  let ts ← annotation self typed ts
  nextParameter typed (fun _ => none) ts

/-- Parameters after a star. `needed` says that the star stood alone and one must come. -/
def afterStar (typed needed : Bool) (ts : Tokens) : Option Tokens :=
  match op? "**" ts with
  | some ts => if needed then none else doubleStar self typed ts
  | none => do
    let ts ← name? ts
    let ts ← annotation self typed ts
    let (_, ts) ← default? self ts
    nextParameter typed (run self (.afterStar typed false)) ts

/-- The star itself, with a name or alone. -/
def starParameter (typed : Bool) (ts : Tokens) : Option Tokens :=
  match op? "," ts with
  | some ts => if parametersEnd typed ts then none else run self (.afterStar typed true) ts
  | none => do
    let ts ← name? ts
    let ts ←
      match typed, op? ":" ts with
      | true, some ts =>
        match op? "*" ts with
        | some ts => run self .bitOr ts
        | none => run self .expression ts
      | _, _ => some ts
    nextParameter typed (run self (.afterStar typed false)) ts

/-- A parameter list without its parentheses: `slash` after the mark for positional ones,
`defaults` after the first default, `started` after the first parameter. -/
def parameters (typed slash defaults started : Bool) (ts : Tokens) : Option Tokens :=
  if !started && parametersEnd typed ts then some ts
  else
    match op? "**" ts with
    | some ts => doubleStar self typed ts
    | none =>
      match op? "*" ts with
      | some ts => starParameter self typed ts
      | none =>
        match op? "/" ts with
        | some ts =>
          if slash || !started then none
          else nextParameter typed (run self (.parameters typed true defaults true)) ts
        | none => do
          let ts ← name? ts
          let ts ← annotation self typed ts
          let (given, ts) ← default? self ts
          if defaults && !given then none
          else nextParameter typed (run self (.parameters typed slash given true)) ts

end parameters

section patterns
variable (self : Self)

/-- A number with a sign that may stand in front: whether it is imaginary. -/
def signedNumber? (ts : Tokens) : Option (Bool × Tokens) :=
  match ts with
  | .op "-" :: .number i :: r => some (i, r)
  | .number i :: r => some (i, r)
  | _ => none

/-- A number of a pattern, perhaps a real part with an imaginary one. -/
def patternNumber? (ts : Tokens) : Option Tokens := do
  let (imaginary, ts) ← signedNumber? ts
  match ts with
  | .op o :: r =>
    if o == "+" || o == "-" then
      match r with
      | .number true :: r => if imaginary then none else some r
      | _ => none
    else some ts
  | _ => some ts

/-- Names joined by dots: how many, and what follows. -/
def dotted : Nat → Tokens → Option (Nat × Tokens)
  | 0, _ => none
  | fuel + 1, ts => do
    let ts ← name? ts
    match ts with
    | .op "." :: r => do
      let (n, r) ← dotted fuel r
      some (n + 1, r)
    | _ => some (1, ts)

/-- A name that a pattern binds. -/
def captureName? (ts : Tokens) : Option Tokens :=
  if startsWord "_" ts then none
  else do
    let ts ← name? ts
    if startsOp "." ts || startsOp "(" ts || startsOp "=" ts then none else some ts

def constantWord? : Tokens → Option Tokens
  | .word w :: r => if ["None", "True", "False"].contains w then some r else none
  | _ => none

/-- A literal of a pattern: a number, strings, or a constant word. -/
def literal? (ts : Tokens) : Option Tokens :=
  match ts with
  | .string b f :: r => strings self b (.string b f :: r)
  | _ =>
    match constantWord? ts with
    | some ts => some ts
    | none => patternNumber? ts

/-- A pattern, or a star with the name it binds. -/
def starPattern (ts : Tokens) : Option Tokens :=
  match op? "*" ts with
  | some ts => if startsWord "_" ts then some (ts.drop 1) else captureName? ts
  | none => run self .pattern ts

/-- Patterns between commas up to where `ends` holds; a comma may come last. -/
def patternList (ends : Tokens → Bool) : Nat → Tokens → Option Tokens
  | 0, _ => none
  | fuel + 1, ts =>
    if ends ts then some ts
    else do
      let ts ← starPattern self ts
      match op? "," ts with
      | some ts => patternList ends fuel ts
      | none => some ts

/-- The arguments of a class pattern, up to and with the closing parenthesis. -/
def classItems (keywordSeen : Bool) (ts : Tokens) : Option Tokens :=
  let next (keywordSeen : Bool) (ts : Tokens) : Option Tokens :=
    match op? ")" ts with
    | some ts => some ts
    | none => do
      let ts ← op? "," ts
      match op? ")" ts with
      | some ts => some ts
      | none => run self (.classItems keywordSeen) ts
  match (name? ts).bind (op? "=") with
  | some ts => do
    let ts ← run self .pattern ts
    next true ts
  | none =>
    if keywordSeen then none
    else do
      let ts ← run self .pattern ts
      next false ts

/-- The items of a mapping pattern, up to and with the closing brace; a double star comes last. -/
def mappingItems (ts : Tokens) : Option Tokens :=
  match op? "\x7d" ts with
  | some ts => some ts
  | none =>
    match op? "**" ts with
    | some ts => do
      let ts ← captureName? ts
      let ts := (op? "," ts).getD ts
      op? "\x7d" ts
    | none => do
      let ts ←
        match literal? self ts with
        | some ts => some ts
        | none => do
          let (n, ts) ← dotted (ts.length + 1) ts
          if n < 2 then none else some ts
      let ts ← op? ":" ts
      let ts ← run self .pattern ts
      match op? "," ts with
      | some ts => run self .mappingItems ts
      | none => op? "\x7d" ts

def closedPattern (ts : Tokens) : Option Tokens :=
  match ts with
  | .op "(" :: r => do
    let r ← patternList self (startsOp ")") (r.length + 1) r
    groupEnd ts r
  | .op "[" :: r => do
    let r ← patternList self (startsOp "]") (r.length + 1) r
    op? "]" r
  | .op "\x7b" :: r => run self .mappingItems r
  | _ =>
    match literal? self ts with
    | some ts => some ts
    | none =>
      match word? "_" ts with
      | some ts => some ts
      | none => do
        let (_, r) ← dotted (ts.length + 1) ts
        match op? "(" r with
        | some r =>
          match op? ")" r with
          | some r => some r
          | none => run self (.classItems false) r
        | none => if startsOp "=" r then none else some r
where
  /-- A star in parentheses needs a comma. -/
  groupEnd (ts r : Tokens) : Option Tokens :=
    match ts with
    | .op "(" :: .op "*" :: inner =>
      match (inner.drop 1) with
      | .op "," :: _ => op? ")" r
      | _ => none
    | _ => op? ")" r

/-- Alternatives, and the name they may be bound to. -/
def pattern (ts : Tokens) : Option Tokens := do
  let ts ← closedPattern self ts
  match op? "|" ts with
  | some ts => run self .pattern ts
  | none =>
    match word? "as" ts with
    | some ts => captureName? ts
    | none => some ts

/-- Does the pattern of a case end here? -/
def caseEnds (ts : Tokens) : Bool := startsOp ":" ts || startsWord "if" ts

/-- The pattern of a case: one, or several between commas. -/
def casePatterns (ts : Tokens) : Option Tokens := do
  let rest ← starPattern self ts
  match op? "," rest with
  | none => if startsOp "*" ts then none else some rest
  | some rest => patternList self caseEnds (rest.length + 1) rest

end patterns

section statements
variable (self : Self)

def augmented : List String :=
  ["+=", "-=", "*=", "@=", "/=", "%=", "&=", "|=", "^=", "<<=", ">>=", "**=", "//="]

/-- A yield, from after its word. -/
def yieldRest (ts : Tokens) : Option Tokens :=
  match word? "from" ts with
  | some ts => run self .expression ts
  | none => if listEnds ts then some ts else run self .starList ts

/-- The right side of an assignment. -/
def assigned (ts : Tokens) : Outcome :=
  match word? "yield" ts with
  | some ts => plain (yieldRest self ts)
  | none => self .starList ts

/-- What follows the targets of an assignment, from after the first equals sign. -/
def assignments : Nat → Tokens → Option Tokens
  | 0, _ => none
  | fuel + 1, ts => do
    let (shape, ts) ← assigned self ts
    match op? "=" ts with
    | some ts => if shape.target then assignments fuel ts else none
    | none => some ts

/-- An expression on its own, or the left side of an assignment. -/
def expressionStatement (ts : Tokens) : Option Tokens := do
  let (shape, ts) ← self .starList ts
  match ts with
  | .op "=" :: r => if shape.target then assignments self (r.length + 1) r else none
  | .op ":" :: r =>
    if shape.single then do
      let r ← run self .expression r
      match op? "=" r with
      | some r => (assigned self r).map (·.2)
      | none => some r
    else none
  | .op o :: r =>
    if augmented.contains o then if shape.single then (assigned self r).map (·.2) else none
    else some ts
  | _ => some ts

def dottedName (ts : Tokens) : Option Tokens := (dotted (ts.length + 1) ts).map (·.2)

/-- A name with the other name it may be given. -/
def asName (ts : Tokens) : Option Tokens :=
  match word? "as" ts with
  | some ts => name? ts
  | none => some ts

def importedModules : Nat → Tokens → Option Tokens
  | 0, _ => none
  | fuel + 1, ts => do
    let ts ← dottedName ts
    let ts ← asName ts
    match op? "," ts with
    | some ts => importedModules fuel ts
    | none => some ts

/-- Imported names; `closing` says that they stand in parentheses, where a comma may end them. -/
def importedNames (closing : Bool) : Nat → Tokens → Option Tokens
  | 0, _ => none
  | fuel + 1, ts => do
    let ts ← name? ts
    let ts ← asName ts
    match op? "," ts with
    | some ts => if closing && startsOp ")" ts then some ts else importedNames closing fuel ts
    | none => some ts

def isDots : Token → Bool
  | .op o => o == "." || o == "..."
  | _ => false

def importFrom (ts : Tokens) : Option Tokens := do
  let rest := ts.dropWhile isDots
  let ts ←
    if rest.length < ts.length && startsWord "import" rest then some rest else dottedName rest
  let ts ← word? "import" ts
  match ts with
  | .op "*" :: r => some r
  | .op "(" :: r => do
    let r ← importedNames true (r.length + 1) r
    op? ")" r
  | _ => importedNames false (ts.length + 1) ts

def nameList : Nat → Tokens → Option Tokens
  | 0, _ => none
  | fuel + 1, ts => do
    let ts ← name? ts
    match op? "," ts with
    | some ts => nameList fuel ts
    | none => some ts

def atStatementEnd (ts : Tokens) : Bool := (newline? ts).isSome || startsOp ";" ts

def simpleStatement (ts : Tokens) : Option Tokens :=
  match ts with
  | .word w :: r =>
    if w == "pass" || w == "break" || w == "continue" then some r
    else if w == "return" then if atStatementEnd r then some r else run self .starList r
    else if w == "raise" then
      if atStatementEnd r then some r
      else do
        let r ← run self .expression r
        match word? "from" r with
        | some r => run self .expression r
        | none => some r
    else if w == "global" || w == "nonlocal" then nameList (r.length + 1) r
    else if w == "del" then do
      let (shape, r) ← self .starList r
      if shape.erasable && atStatementEnd r then some r else none
    else if w == "assert" then do
      let r ← run self .expression r
      match op? "," r with
      | some r => run self .expression r
      | none => some r
    else if w == "import" then importedModules (r.length + 1) r
    else if w == "from" then importFrom r
    else if w == "yield" then yieldRest self r
    else expressionStatement self ts
  | _ => expressionStatement self ts

/-- Simple statements between semicolons, to the end of the line. -/
def simpleLine (ts : Tokens) : Option Tokens := do
  let ts ← simpleStatement self ts
  match op? ";" ts with
  | none => newline? ts
  | some ts =>
    match newline? ts with
    | some ts => some ts
    | none => run self .simpleLine ts

/-- The rest of the line, or an indented block of statements. -/
def block (ts : Tokens) : Option Tokens :=
  match ts with
  | .newline :: .indent :: r => do
    let r ← run self .statements r
    match r with
    | .dedent :: r => some r
    | _ => none
  | .newline :: _ => none
  | _ => run self .simpleLine ts

/-- A colon and a block. -/
def suite (ts : Tokens) : Option Tokens := do
  let ts ← op? ":" ts
  run self .block ts

def elseBlock (ts : Tokens) : Option Tokens :=
  match word? "else" ts with
  | some ts => suite self ts
  | none => some ts

def elifs (ts : Tokens) : Option Tokens :=
  match word? "elif" ts with
  | some ts => do
    let ts ← run self .named ts
    let ts ← suite self ts
    run self .elifs ts
  | none => run self .elseBlock ts

def finallyBlock? (ts : Tokens) : Option Tokens := do
  let ts ← word? "finally" ts
  suite self ts

/-- Handlers of one kind, then what may come after them. -/
def handlers (star : Bool) (ts : Tokens) : Option Tokens :=
  match word? "except" ts with
  | none => do
    let ts ← run self .elseBlock ts
    if startsWord "finally" ts then finallyBlock? self ts else some ts
  | some r => do
    if startsOp "*" r != star then none
    let r := if star then r.drop 1 else r
    let r ←
      if !star && startsOp ":" r then some r
      else do
        let r ← run self .expression r
        asName r
    let r ← suite self r
    run self (.handlers star) r

def tryStatement (ts : Tokens) : Option Tokens := do
  let ts ← suite self ts
  match word? "except" ts with
  | some r => run self (.handlers (startsOp "*" r)) ts
  | none => finallyBlock? self ts

/-- One context of a `with`, up to a comma, a closing parenthesis or a colon. -/
def withItem (ts : Tokens) : Option Tokens := do
  let ts ← run self .expression ts
  match word? "as" ts with
  | none => some ts
  | some r => do
    let (shape, r) ←
      match op? "*" r with
      | some r => (primary self r).map fun p => (p.1.star, p.2)
      | none => primary self r
    if shape.target && (startsOp "," r || startsOp ")" r || startsOp ":" r) then some r else none

def withItems (closing : Bool) : Nat → Tokens → Option Tokens
  | 0, _ => none
  | fuel + 1, ts => do
    let ts ← withItem self ts
    match op? "," ts with
    | some ts => if closing && startsOp ")" ts then some ts else withItems closing fuel ts
    | none => some ts

/-- The contexts of a `with`, in parentheses of their own if that works out. -/
def withHeader (ts : Tokens) : Option Tokens :=
  let inParentheses : Option Tokens := do
    let r ← op? "(" ts
    let r ← withItems self true (r.length + 1) r
    let r ← op? ")" r
    if startsOp ":" r then some r else none
  match inParentheses with
  | some ts => some ts
  | none => withItems self false (ts.length + 1) ts

def forStatement (ts : Tokens) : Option Tokens := do
  let ts ← run self .starTargets ts
  let ts ← word? "in" ts
  let ts ← run self .starList ts
  let ts ← suite self ts
  run self .elseBlock ts

def withStatement (ts : Tokens) : Option Tokens := do
  let ts ← withHeader self ts
  suite self ts

def functionDefinition (ts : Tokens) : Option Tokens := do
  let ts ← name? ts
  let ts ← op? "(" ts
  let ts ← run self (.parameters true false false false) ts
  let ts ← op? ")" ts
  let ts ←
    match op? "->" ts with
    | some ts => run self .expression ts
    | none => some ts
  suite self ts

def classDefinition (ts : Tokens) : Option Tokens := do
  let ts ← name? ts
  let ts ←
    match op? "(" ts with
    | some ts => arguments self false false false ts
    | none => some ts
  suite self ts

/-- What a decorator may stand in front of. -/
def decorated : Nat → Tokens → Option Tokens
  | 0, _ => none
  | fuel + 1, ts =>
    match ts with
    | .op "@" :: r => do
      let r ← run self .named r
      let r ← newline? r
      decorated fuel r
    | .word "class" :: r => classDefinition self r
    | .word "def" :: r => functionDefinition self r
    | .word "async" :: .word "def" :: r => functionDefinition self r
    | _ => none

/-- The cases of a match, to the end of its block. -/
def cases (ts : Tokens) : Option Tokens := do
  let ts ← word? "case" ts
  let ts ← casePatterns self ts
  let ts ←
    match word? "if" ts with
    | some ts => run self .named ts
    | none => some ts
  let ts ← suite self ts
  match ts with
  | .dedent :: r => some r
  | _ => run self .cases ts

/-- A match, from after its word, which may be a plain name elsewhere. -/
def matchStatement (ts : Tokens) : Option Tokens := do
  let (first, ts) ← starNamed self ts
  let ts ←
    if startsOp "," ts then (moreItems self ":" (ts.length + 1) [first] ts).map (·.2)
    else if first.starred then none
    else some ts
  let ts ← op? ":" ts
  match ts with
  | .newline :: .indent :: r => run self .cases r
  | _ => none

def statement (ts : Tokens) : Option Tokens :=
  match ts with
  | .op "@" :: _ => decorated self (ts.length + 1) ts
  | .word w :: r =>
    if w == "def" || w == "class" then decorated self 1 ts
    else if w == "if" then do
      let r ← run self .named r
      let r ← suite self r
      run self .elifs r
    else if w == "while" then do
      let r ← run self .named r
      let r ← suite self r
      run self .elseBlock r
    else if w == "for" then forStatement self r
    else if w == "try" then tryStatement self r
    else if w == "with" then withStatement self r
    else if w == "async" then
      match r with
      | .word "def" :: _ => decorated self 1 ts
      | .word "for" :: r => forStatement self r
      | .word "with" :: r => withStatement self r
      | _ => none
    else if w == "match" then
      match matchStatement self r with
      | some r => some r
      | none => run self .simpleLine ts
    else run self .simpleLine ts
  | _ => run self .simpleLine ts

/-- Statements, to the end of a block or of the text. -/
def statements (ts : Tokens) : Option Tokens := do
  let ts ← run self .statement ts
  match ts with
  | .dedent :: _ => some ts
  | .stop :: _ => some ts
  | _ => run self .statements ts

end statements

/-- One level of every rule. -/
def level (self : Self) : Self
  | .statements, ts => plain (statements self ts)
  | .statement, ts => plain (statement self ts)
  | .simpleLine, ts => plain (simpleLine self ts)
  | .block, ts => plain (block self ts)
  | .elseBlock, ts => plain (elseBlock self ts)
  | .handlers star, ts => plain (handlers self star ts)
  | .elifs, ts => plain (elifs self ts)
  | .cases, ts => plain (cases self ts)
  | .expression, ts => expression self ts
  | .named, ts => named self ts
  | .disjunction, ts => disjunction self ts
  | .bitOr, ts => bitOr self ts
  | .operand, ts => operand self ts
  | .trailers shape, ts => trailers self shape ts
  | .starList, ts => starList self ts
  | .starTargets, ts => starTargets self ts
  | .clauses, ts => plain (clauses self ts)
  | .arguments generator keywordSeen doubled, ts =>
    plain (arguments self generator keywordSeen doubled ts)
  | .slices, ts => plain (slices self ts)
  | .parameters typed slash defaults started, ts =>
    plain (parameters self typed slash defaults started ts)
  | .afterStar typed needed, ts => plain (afterStar self typed needed ts)
  | .pattern, ts => plain (pattern self ts)
  | .classItems keywordSeen, ts => plain (classItems self keywordSeen ts)
  | .mappingItems, ts => plain (mappingItems self ts)
  | .fieldGroup, ts =>
    match ts with
    | .op "(" :: r => parenthesized self r
    | _ => none

/-- What a rule recognises within `depth` nested calls. -/
def derive : Nat → Self
  | 0 => fun _ _ => none
  | depth + 1 => level (derive depth)

/-- A bound on the depth of calls that recognising a text takes. -/
def depthFor (t : Text) : Nat := 20 * (t.length + 4)

/-- Is the text a module with at least one statement? -/
def isModule (known : Text → Bool) (t : Text) : Bool :=
  if t.contains (Char.ofNat 0) then false
  else
    match tokens known t with
    | none => false
    | some ts =>
      match derive (depthFor (withLineFeeds t)) .statements ts with
      | some (_, [.stop]) => true
      | _ => false

end Excerpt.Python
