import Excerpt.JavaScript.Lexeme

/-!
The grammar of JavaScript, as a recogniser on text. Words and slashes are read by what may stand
where they are, so there is no separate pass for tokens. An expression comes with what it may stand
for on the left of an assignment or among parameters, so patterns and expressions are read by the
same rules. Rules call each other through `self`, and `derive` ties the knot with a bound on the
depth of calls.
-/
namespace Excerpt.JavaScript

/-- What an expression may stand for. -/
structure Shape where
  /-- A value. -/
  value : Bool := true
  /-- A name, a property or an item: it takes every kind of assignment. -/
  place : Bool := false
  /-- A list or an object that an assignment takes apart; for a list in parentheses, parameters. -/
  pattern : Bool := false
  /-- A place or pattern with a default. -/
  defaulted : Bool := false
  /-- A value in parentheses. -/
  grouped : Bool := false
  /-- A list of one value. -/
  sole : Bool := false
deriving DecidableEq, Repr

namespace Shape

def other : Shape := {}

def spot : Shape := { place := true }

def isTarget (s : Shape) : Bool := s.place || s.pattern

def isParameter (s : Shape) : Bool := s.place || s.pattern || s.defaulted

end Shape

inductive Rule where
  | statements
  | statement
  | block
  | expressions (ends : Bool)
  | expression (ends : Bool)
  | operand (ends : Bool)
  | atom (ends : Bool)
  | tail (ends calls : Bool) (shape : Shape)
  | items (close : Char)
  | object
  | function
  | classRest
  | template
  | element
  | children
deriving DecidableEq, Repr

abbrev Outcome := Option (Shape × Text)

/-- The outcome of a rule on a text. With `ends`, a semicolon may be due after the expression. -/
abbrev Self := Rule → Text → Outcome

/-- A value that stands for nothing else. -/
def plain (r : Option Text) : Outcome := r.map fun t => (Shape.other, t)

/-- The rest after an expression that is a value. -/
def Outcome.value (o : Outcome) : Option Text := o.bind fun p => if p.1.value then some p.2 else none

/-- The rest after a given mark. -/
def mark? (c : Char) (t : Text) : Option Text :=
  match skip t with
  | d :: r => if d == c then some r else none
  | [] => none

/-- The rest after a given word, blanks before it. -/
def next? (w : String) (t : Text) : Option Text := keyword? w (skip t)

/-- One item of a list. -/
inductive Item where
  | hole
  | spread (shape : Shape)
  | single (shape : Shape)

namespace Item

def isValue : Item → Bool
  | hole => true
  | spread s | single s => s.value

def isPattern : Item → Bool
  | hole => true
  | spread s => s.isTarget
  | single s => s.isParameter

def isHole : Item → Bool
  | hole => true
  | _ => false

/-- Are the items, last one first, the parameters of a function? A comma may come last. -/
def areParameters (items : List Item) : Bool :=
  match items with
  | [hole] => true
  | hole :: rest | rest => rest.all fun i => !i.isHole && i.isPattern

def isSingleValue : Item → Bool
  | single s => s.value
  | _ => false

/-- What a list of items, last one first, may stand for. -/
def shape (close : Char) (items : List Item) : Shape :=
  if close == ']' then
    { value := items.all isValue
      pattern := items.all isPattern
      sole := items.length == 1 && items.all isSingleValue }
  else
    { value := items.all isValue
      pattern := areParameters items
      sole := items.all isSingleValue }

end Item

section expressions
variable (self : Self)

def value (rule : Rule) (t : Text) : Option Text := (self rule t).value

/-- One item of a list, or a hole. -/
def item (t : Text) : Option (Item × Text) :=
  match skip t with
  | '.' :: '.' :: '.' :: r => (self (.expression false) r).map fun p => (.spread p.1, p.2)
  | r =>
    if r.head? == some ',' || r.head? == some ')' || r.head? == some ']' then some (.hole, r)
    else (self (.expression false) r).map fun p => (.single p.1, p.2)

/-- Items up to the closing mark. -/
def itemsUpTo (close : Char) : Text → List Item → Text → Outcome
  | [], _, _ => none
  | _ :: bound, acc, t => do
    let (i, t) ← item self t
    match skip t with
    | ',' :: r => itemsUpTo close bound (i :: acc) r
    | c :: r => if c == close then some (Item.shape close (i :: acc), r) else none
    | [] => none

/-- The arguments of a call, from after the opening parenthesis. -/
def arguments (t : Text) : Option Text := value self (.items ')') t

/-- The parameters of a function. -/
def parameters (t : Text) : Option Text := do
  let t ← mark? '(' t
  let (s, t) ← self (.items ')') t
  if s.pattern then some t else none

def braces (t : Text) : Option Text := do
  let t ← mark? '{' t
  let (_, t) ← self .block t
  some t

/-- An expression in parentheses. -/
def parenthesized (t : Text) : Option Text := do
  let t ← mark? '(' t
  let t ← value self (.expressions false) t
  mark? ')' t

/-- The name of a property after a dot. -/
def property? (t : Text) : Option Text :=
  match skip t with
  | '#' :: r => (word? r).map (·.2)
  | r => (word? r).map (·.2)

/-- An item in brackets, from after the opening one. -/
def subscript (t : Text) : Option Text := do
  let t ← value self (.expressions false) t
  mark? ']' t

/-- What may follow a value and bind as tightly: properties, items, calls, templates, steps, and
assignments. Without `calls` only what a constructor's name may have. -/
def tail (ends calls : Bool) (s : Shape) (t : Text) : Outcome :=
  match pause ends true t with
  | none => some (s, t)
  | some r =>
    match r with
    | '.' :: u =>
      if s.value then (property? u).bind (self (.tail ends calls .spot)) else none
    | '?' :: '.' :: u =>
      if (question? r).isSome then some (s, t)
      else if !s.value then none
      else
        match skip u with
        | '[' :: v => (subscript self v).bind (self (.tail ends calls .spot))
        | '(' :: v => (arguments self v).bind (self (.tail ends calls .other))
        | v => (property? v).bind (self (.tail ends calls .spot))
    | '[' :: u => if s.value then (subscript self u).bind (self (.tail ends calls .spot)) else none
    | '`' :: u =>
      if s.value then (value self .template u).bind (self (.tail ends calls .other)) else none
    | _ =>
      if !calls then some (s, t)
      else
        match r with
        | '(' :: u => if s.value then (arguments self u).bind (self (.tail ends calls .other)) else none
        | '+' :: '+' :: u | '-' :: '-' :: u =>
          if s.value then self (.tail ends calls .other) u else none
        | _ =>
          match equals? r with
          | some u =>
            if s.isTarget || s.grouped then
              (value self (.expression ends) u).map fun v => ({ defaulted := s.isTarget }, v)
            else none
          | none =>
            match augmented? r with
            | some u =>
              if s.place || s.grouped then plain (value self (.expression ends) u) else none
            | none => some (s, t)

/-- The operators after an operand and what they join it with. -/
def operators (ends : Bool) : Text → Shape → Text → Outcome
  | [], _, _ => none
  | _ :: bound, s, t =>
    match pause ends true t with
    | none => some (s, t)
    | some r =>
      match binary? r with
      | some u =>
        if s.value then do
          let u ← value self (.operand ends) u
          operators ends bound .other u
        else none
      | none =>
        match question? r with
        | some u =>
          if s.value then do
            let u ← value self (.expression false) u
            let u ← mark? ':' u
            plain (value self (.expression ends) u)
          else none
        | none => some (s, t)

def expression (ends : Bool) (t : Text) : Outcome := do
  let (s, t) ← self (.operand ends) t
  operators self ends (' ' :: t) s t

/-- Expressions with commas between them. -/
def expressions (ends : Bool) : Text → Text → Option Text
  | [], _ => none
  | _ :: bound, t => do
    let t ← value self (.expression ends) t
    match pause ends true t with
    | some (',' :: r) => expressions ends bound r
    | _ => some t

/-- May an object start here, from after the brace, where a block may start as well? A word that
stands alone or starts a statement decides for the block. -/
def mayBeObject (t : Text) : Bool :=
  let r := skip t
  match r with
  | [] => false
  | c :: _ =>
    ['}', ',', '*', '"', '\'', '[', '#', '.', '@'].contains c || c.isDigit ||
      match word? r with
      | none => false
      | some (w, u) =>
        if w == "await" || w == "yield" || (reserved.contains w && w != "default" && w != "case" &&
            w != "catch" && w != "else" && w != "extends" && w != "finally" && w != "in" &&
            w != "instanceof") then false
        else
          match skip u with
          | ':' :: _ | '(' :: _ => true
          | '=' :: d :: _ => d != '=' && d != '>'
          | d :: v =>
            ["get", "set", "async", "static"].contains w &&
              (d == '*' || d == '"' || d == '\'' || d == '[' || d == '#' || d.isDigit ||
                (word? (d :: v)).isSome)
          | [] => false

/-- The body of a function after its arrow: a block, or a value. -/
def arrow (ends : Bool) (t : Text) : Outcome :=
  match skip t with
  | '{' :: r =>
    match self .block r with
    | some (_, r) => some (.other, r)
    | none => if mayBeObject r then plain (value self (.expression ends) ('{' :: r)) else none
  | r => plain (value self (.expression ends) r)

/-- A value or parameters in parentheses, from after the opening one. -/
def group (ends : Bool) (t : Text) : Outcome := do
  let (s, t) ← self (.items ')') t
  match pause ends true t with
  | some ('=' :: '>' :: r) => if s.pattern then arrow self ends r else none
  | _ => if s.sole then some ({ grouped := true }, t) else none

/-- A name, which may be the parameter of a function. -/
def named (ends : Bool) (t : Text) : Outcome :=
  match pause ends true t with
  | some ('=' :: '>' :: r) => arrow self ends r
  | _ => some (.spot, t)

/-- A function, an arrow function, a call, or the name itself, from after the word `async`. -/
def async (ends : Bool) (t : Text) : Outcome :=
  match pause ends true t with
  | none => some (.spot, t)
  | some ('(' :: r) => do
    let (s, r) ← self (.items ')') r
    match pause ends true r with
    | some ('=' :: '>' :: u) => if s.pattern then arrow self ends u else none
    | _ => if s.value then some (.other, r) else none
  | some ('=' :: '>' :: r) => arrow self ends r
  | some r =>
    match word? r with
    | some ("function", u) => self .function u
    | some (w, u) =>
      match skip u with
      | '=' :: '>' :: v => if reserved.contains w then none else arrow self ends v
      | _ => some (.spot, t)
    | none => some (.spot, t)

/-- What a constructor is called with, from after the word `new`. -/
def construction (ends : Bool) : Text → Text → Option Text
  | [], _ => none
  | _ :: bound, t =>
    match next? "new" t with
    | some r => do
      let t ←
        match skip r with
        | '.' :: u => next? "target" u
        | r => construction ends bound r
      called t
    | none => do
      let (s, t) ← self (.atom ends) t
      let t ← value self (.tail ends false s) t
      called t
where
  called (t : Text) : Option Text :=
    match pause ends true t with
    | some ('(' :: r) => arguments self r
    | _ => some t

/-- Names with marks in front that change a class or its members. -/
def decorators : Text → Text → Option Text
  | [], t => some t
  | _ :: bound, t =>
    match skip t with
    | '@' :: r => do
      let r ← name? (skip r)
      let r ← members r r
      let r ←
        match skip r with
        | '(' :: u => arguments self u
        | _ => some r
      decorators bound r
    | r => some r
where
  members : Text → Text → Option Text
    | [], t => some t
    | _ :: bound, t =>
      match skip t with
      | '.' :: r => (property? r).bind (members bound)
      | _ => some t

def importCall (t : Text) : Outcome :=
  match skip t with
  | '(' :: r => plain (arguments self r)
  | '.' :: r | '?' :: '.' :: r =>
    match word? (skip r) with
    | some ("meta", u) => some (.other, u)
    | some (_, u) => some (.spot, u)
    | none => none
  | _ => none

/-- An operand without what follows it. -/
def atom (ends : Bool) (t : Text) : Outcome :=
  match skip t with
  | '(' :: r => group self ends r
  | '[' :: r => self (.items ']') r
  | '{' :: r => self .object r
  | '`' :: r => self .template r
  | '/' :: r =>
    match r with
    | '/' :: _ => none
    | r => plain (regex? false r)
  | '@' :: r => do
    let r ← decorators self ('@' :: r) ('@' :: r)
    let r ← next? "class" r
    self .classRest r
  | r =>
    match word? r with
    | some (w, u) =>
      match w with
      | "this" | "super" | "null" | "true" | "false" => some (.other, u)
      | "function" => self .function u
      | "class" => self .classRest u
      | "import" => importCall self u
      | "async" => async self ends u
      | "undefined" => some (.spot, u)
      | "await" | "yield" => none
      | w => if w != "export" && reserved.contains w then none else named self ends u
    | none =>
      match literal? r with
      | some u => some (.other, u)
      | none => plain (number? r)

/-- A word that hands over a value, which may be left out. -/
def yielding (ends : Bool) (t : Text) : Outcome :=
  match pause ends true t with
  | none => some (.other, t)
  | some r =>
    match r with
    | '*' :: '*' :: _ => some (.other, t)
    | '*' :: u => plain (value self (.expression ends) u)
    | r => if startsOperand r then plain (value self (.expression ends) r) else some (.other, t)

def operand (ends : Bool) (t : Text) : Outcome :=
  let r := skip t
  match r with
  | '+' :: '+' :: u | '-' :: '-' :: u | '+' :: u | '-' :: u | '!' :: u | '~' :: u =>
    plain (value self (.operand ends) u)
  | '<' :: u => (value self .element u).bind (self (.tail ends true .other))
  | '#' :: u => do
    let (_, u) ← word? u
    if (next? "in" u).isSome then some (.other, u) else none
  | r =>
    match word? r with
    | some ("typeof", u) | some ("void", u) | some ("delete", u) | some ("await", u) =>
      plain (value self (.operand ends) u)
    | some ("yield", u) => (yielding self ends u).bind fun p => self (.tail ends true p.1) p.2
    | some ("new", u) =>
      match skip u with
      | '.' :: v => (next? "target" v).bind (self (.tail ends true .other))
      | _ => (construction self ends r u).bind (self (.tail ends true .other))
    | _ => (self (.atom ends) r).bind fun p => self (.tail ends true p.1) p.2

/-- Text between backquotes, from after the opening one. -/
def template : Text → Text → Option Text
  | [], _ => none
  | _ :: bound, t =>
    match t with
    | [] => none
    | '`' :: r => some r
    | '\\' :: r => (escape? r).bind (template bound)
    | '$' :: '{' :: r => do
      let r ← value self (.expressions false) r
      let r ← mark? '}' r
      template bound r
    | _ :: r => template bound r

/-! ### Functions, objects and classes -/

def functionRest (t : Text) : Option Text := do
  let t := (mark? '*' t).getD t
  let t := (name? (skip t)).getD t
  let t ← parameters self t
  braces self t

/-- The name of a member. A word says whether it may also stand for a variable of that name. -/
inductive NameKind where
  | word
  | fixed
  /-- A list that may be a pattern instead. -/
  | pattern
deriving DecidableEq, Repr

/-- The name of a member, and how it may be read. -/
def memberName (t : Text) : Option (NameKind × Shape × Text) :=
  match skip t with
  | '[' :: r => (self (.items ']') r).map fun p => (.pattern, p.1, p.2)
  | '#' :: r => (word? r).map fun p => (.fixed, .other, p.2)
  | r =>
    match word? r with
    | some (_, u) => some (.word, .spot, u)
    | none =>
      match literal? r with
      | some u => some (.fixed, .other, u)
      | none => (number? r).map fun u => (.fixed, .other, u)

def startsMemberName (t : Text) : Bool :=
  match t with
  | c :: _ =>
    c == '[' || c == '#' || c == '"' || c == '\'' || (number? t).isSome || (word? t).isSome
  | [] => false

/-- What stands before the name of a member: nothing, `static` alone, or what only a method has. -/
inductive Prefixed where
  | bare
  | static
  | method
deriving DecidableEq, Repr

def modifierStage : String → Option Nat
  | "static" => some 0
  | "async" => some 1
  | "get" | "set" => some 2
  | _ => none

/-- Reads over the words in front of a member's name. Such a word counts only if a name follows. -/
def modifiers (ends : Bool) : Nat → Nat → Prefixed → Text → Prefixed × Text
  | 0, _, p, t => (p, t)
  | bound + 1, stage, p, t =>
    let r := skip t
    match r with
    | '*' :: u => if stage ≤ 2 then (.method, u) else (p, r)
    | r =>
      match word? r with
      | some (w, u) =>
        match modifierStage w, pause ends false u with
        | some n, some v =>
          if stage ≤ n && (startsMemberName v || (n < 2 && v.head? == some '*')) then
            modifiers ends bound (n + 1) (if n == 0 then .static else .method) u
          else (p, r)
        | _, _ => (p, r)
      | none => (p, r)

/-- A method from after its name. -/
def method (t : Text) : Option Text := do
  let t ← parameters self t
  braces self t

/-- One member of an object: as a value, as a pattern, or as both. -/
def member (t : Text) : Outcome :=
  match skip t with
  | '.' :: '.' :: '.' :: r =>
    (self (.expression false) r).map fun p => ({ value := p.1.value, pattern := p.1.isTarget }, p.2)
  | '{' :: r => do
    let (s, r) ← self .object r
    let u ← equals? (skip r)
    let u ← value self (.expression false) u
    if s.pattern then some ({ value := false, pattern := true }, u) else none
  | '@' :: r => do
    let r ← decorators self ('@' :: r) ('@' :: r)
    let (_, r) := modifiers false 3 0 .bare r
    let (_, _, r) ← memberName self r
    plain (method self r)
  | r =>
    match modifiers false 3 0 .bare r with
    | (.bare, r) => do
      let (kind, s, u) ← memberName self r
      let computed := kind != .pattern || s.sole
      match skip u with
      | '(' :: _ => if computed then plain (method self u) else none
      | ':' :: v =>
        if computed then
          (self (.expression false) v).map fun p =>
            ({ value := p.1.value, pattern := p.1.isParameter }, p.2)
        else none
      | v =>
        match equals? v with
        | some v =>
          if kind == .word || s.pattern then
            (value self (.expression false) v).map fun w => ({ value := false, pattern := true }, w)
          else none
        | none => if kind == .word then some ({ pattern := true }, u) else none
    | (_, r) => do
      let (kind, s, u) ← memberName self r
      if kind != .pattern || s.sole then plain (method self u) else none

/-- The members of an object up to its closing brace. -/
def members (s : Shape) : Text → Text → Outcome
  | [], _ => none
  | _ :: bound, t =>
    match skip t with
    | '}' :: r => some (s, r)
    | ',' :: r => members s bound r
    | r => do
      let (m, u) ← member self r
      let s := { s with value := s.value && m.value, pattern := s.pattern && m.pattern }
      match skip u with
      | ',' :: v => members s bound v
      | '}' :: v => some (s, v)
      | _ => none

def object (t : Text) : Outcome := members self { pattern := true } (' ' :: t) t

/-- One member of a class. -/
def classMember (t : Text) : Option Text := do
  let t ← decorators self (' ' :: t) t
  let (p, r) := modifiers true 3 0 .bare t
  let (kind, s, u) ← memberName self r
  if kind == .pattern && !s.sole then none
  else
    match pause true false u with
    | none => if p == .method then none else some u
    | some ('(' :: _) => method self u
    | some v =>
      if p == .method then none
      else
        match equals? v with
        | some v => (value self (.expression true) v).bind (finish true)
        | none => finish false u

/-- The members of a class up to its closing brace. -/
def classMembers : Text → Text → Option Text
  | [], _ => none
  | _ :: bound, t =>
    match skip t with
    | '}' :: r => some r
    | ';' :: r => classMembers bound r
    | r =>
      match (keyword? "static" r).bind (pause true false) with
      | some ('{' :: u) => do
        let (_, u) ← self .block u
        classMembers bound u
      | _ => do
        let u ← classMember self r
        classMembers bound u

/-- A class from after that word. -/
def classRest (t : Text) : Option Text := do
  let t := (name? (skip t)).getD t
  let t ←
    match next? "extends" t with
    | some r => value self (.expression false) r
    | none => some t
  let t ← mark? '{' t
  classMembers self (' ' :: t) t

/-! ### Elements -/

def braced (t : Text) : Option Text :=
  match skip t with
  | '}' :: r => some r
  | '.' :: '.' :: '.' :: r => (value self (.expression false) r).bind (mark? '}')
  | r => (value self (.expressions false) r).bind (mark? '}')

/-- The name of an element or attribute, with parts after dots or a colon. -/
def elementName (dots : Bool) (t : Text) : Option Text := do
  let r ← elementWord? (skip t)
  match skip r with
  | ':' :: u => elementWord? (skip u)
  | '.' :: u => if dots then (word? (skip u)).bind fun p => parts p.2 p.2 else some r
  | _ => some r
where
  parts : Text → Text → Option Text
    | [], t => some t
    | _ :: bound, t =>
      match skip t with
      | '.' :: u => (word? (skip u)).bind fun p => parts bound p.2
      | _ => some t

def attributeValue (t : Text) : Option Text :=
  match skip t with
  | '"' :: r => attributeString? '"' ('"' :: r) r
  | '\'' :: r => attributeString? '\'' ('\'' :: r) r
  | '{' :: r => braced self r
  | '<' :: r => value self .element r
  | _ => none

/-- The attributes of an element, and the rest of it. -/
def attributes : Text → Text → Option Text
  | [], _ => none
  | _ :: bound, t =>
    match skip t with
    | '/' :: '>' :: r => some r
    | '>' :: r => value self .children r
    | '{' :: r => (braced self r).bind (attributes bound)
    | r => do
      let r ← elementName false r
      match mark? '=' r with
      | some u => (attributeValue self u).bind (attributes bound)
      | none => attributes bound r

/-- An element from after its opening mark. -/
def element (t : Text) : Option Text :=
  match skip t with
  | '>' :: r => value self .children r
  | r => (elementName true r).bind fun u => attributes self (' ' :: u) u

/-- What stands between the two marks of an element, and the second one. -/
def children : Text → Text → Option Text
  | [], _ => none
  | _ :: bound, t =>
    match t with
    | [] => none
    | '{' :: r => (braced self r).bind (children bound)
    | '&' :: r => (reference? r).bind (children bound)
    | '<' :: '!' :: '-' :: '-' :: r => children bound (r.dropWhile fun c => !isLineBreak c)
    | '<' :: '/' :: r =>
      match skip r with
      | '>' :: u => some u
      | u => (elementName true u).bind (mark? '>')
    | '<' :: r => (value self .element r).bind (children bound)
    | '>' :: _ | '}' :: _ => none
    | _ :: r => children bound r

end expressions

section statements
variable (self : Self)

/-- A name to declare, or a pattern of names. -/
def binding (t : Text) : Option Text :=
  match skip t with
  | '[' :: r => (self (.items ']') r).bind fun p => if p.1.pattern then some p.2 else none
  | '{' :: r => (self .object r).bind fun p => if p.1.pattern then some p.2 else none
  | r => name? r

/-- Declared names with their values, to the end of the statement. -/
def declarations : Text → Text → Option Text
  | [], _ => none
  | _ :: bound, t => do
    let t ← binding self t
    let (t, valued) ←
      match (pause true false t).bind equals? with
      | some r => (value self (.expression true) r).map fun u => (u, true)
      | none => some (t, false)
    match pause true valued t with
    | none => some t
    | some (',' :: r) => declarations bound r
    | some (';' :: r) => some r
    | some _ => none

def declaration (t : Text) : Option Text := declarations self (' ' :: t) t

def expressionStatement (t : Text) : Option Text := do
  let t ← value self (.expressions true) t
  finish true t

/-- Does the next token go on with a value, and start no statement? -/
def goesOn (t : Text) : Bool :=
  match pause true true t with
  | none => false
  | some r =>
    match r with
    | '.' :: c :: _ => !c.isDigit
    | '!' :: c :: _ => c == '='
    | '<' :: c :: _ => c == '=' || c == '<'
    | c :: _ =>
      ['?', '*', '%', ',', '&', '|', '^', '>', '='].contains c ||
        (keyword? "in" r).isSome || (keyword? "instanceof" r).isSome
    | [] => false

/-- A function or class that is a statement by itself, unless a value has to be read: it has no name,
or goes on as a value. -/
def selfStanding (whole : Text) (hasName : Bool) (rest : Option Text) : Option Text := do
  let r ← rest
  if !hasName || goesOn r then expressionStatement self whole else some r

def functionStatement (whole t : Text) : Option Text :=
  let afterStar := (mark? '*' t).getD t
  selfStanding self whole (name? (skip afterStar)).isSome ((self .function t).map (·.2))

def classStatement (whole t : Text) : Option Text :=
  selfStanding self whole (name? (skip t)).isSome ((self .classRest t).map (·.2))

/-- A block, or a statement that starts with an object. -/
def braceStatement (whole t : Text) : Option Text :=
  match self .block t with
  | some (_, r) =>
    if goesOn r && mayBeObject t then expressionStatement self whole else some r
  | none => if mayBeObject t then expressionStatement self whole else none

def statementAfter (t : Text) : Option Text := (self .statement t).map (·.2)

def conditional (t : Text) : Option Text := do
  let t ← parenthesized self t
  let t ← statementAfter self t
  match next? "else" t with
  | some r => statementAfter self r
  | none => some t

/-- The head of a loop over members or items, from after its parenthesis. A variable of the old kind
may have a first value. -/
def iteration (t : Text) : Option Text := do
  let r := skip t
  let declared : Option Text :=
    match word? r with
    | some ("var", u) => do
      let u ← binding self u
      match (pause true false u).bind equals? with
      | some v => value self (.operand false) v
      | none => pause true false u
    | some ("let", u) | some ("const", u) => binding self u
    | _ => none
  let inOrOf (r : Text) : Option Text := do
    let r ← (next? "of" r <|> next? "in" r)
    let r ← value self (.expressions false) r
    mark? ')' r
  match declared.bind inOrOf with
  | some u => some u
  | none => do
    let (s, u) ← self (.operand false) r
    if s.isTarget || s.grouped then inOrOf u else none

/-- The head of a counting loop, from after its parenthesis. -/
def counting (t : Text) : Option Text := do
  let r := skip t
  let part (r : Text) : Option Text :=
    match skip r with
    | ';' :: u => some u
    | r => (value self (.expressions false) r).bind (mark? ';')
  let r ←
    match word? r with
    | some ("var", u) | some ("const", u) => declaration self u
    | some ("let", u) =>
      match declaration self u with
      | some v => some v
      | none => part r
    | _ => part r
  let r ← part r
  match mark? ')' r with
  | some u => some u
  | none => (value self (.expressions false) r).bind (mark? ')')

def loop (t : Text) : Option Text :=
  match next? "await" t with
  | some r => do
    let r ← mark? '(' r
    let r ← iteration self r
    statementAfter self r
  | none => do
    let r ← mark? '(' t
    let r ← (iteration self r <|> counting self r)
    statementAfter self r

def afterwards (t : Text) : Option Text := do
  let t ← statementAfter self t
  let t ← next? "while" t
  let t ← parenthesized self t
  match pause true false t with
  | some (';' :: r) => some r
  | _ => some t

/-- The cases of a choice up to the closing brace. -/
def cases : Text → Text → Option Text
  | [], _ => none
  | _ :: bound, t =>
    match skip t with
    | '}' :: r => some r
    | r => do
      let r ←
        match keyword? "case" r with
        | some u => value self (.expressions false) u
        | none => keyword? "default" r
      let r ← mark? ':' r
      let (_, r) ← self .statements r
      cases bound r

def choice (t : Text) : Option Text := do
  let t ← parenthesized self t
  let t ← mark? '{' t
  cases self (' ' :: t) t

def attempt (t : Text) : Option Text := do
  let t ← braces self t
  let t ←
    match next? "catch" t with
    | some r => do
      let r ←
        match mark? '(' r with
        | some u => (binding self u).bind (mark? ')')
        | none => some r
      braces self r
    | none => some t
  match next? "finally" t with
  | some r => braces self r
  | none => some t

def handBack (t : Text) : Option Text :=
  match pause true false t with
  | none => some t
  | some (';' :: r) => some r
  | some r => expressionStatement self r

/-- A jump, perhaps to a label. -/
def jump (t : Text) : Option Text :=
  match pause true false t with
  | none => some t
  | some r => finish false ((name? r).getD t)

/-- The names that a module brings in or gives out, in braces. -/
def specifiers (exporting : Bool) : Text → Text → Option Text
  | [], _ => none
  | _ :: bound, t =>
    match skip t with
    | '}' :: r => some r
    | r => do
      let (needsAlias, r) ← source r
      let r ←
        match next? "as" r with
        | some u => if exporting then (source u).map (·.2) else name? (skip u)
        | none => if needsAlias && !exporting then none else some r
      match skip r with
      | ',' :: u => specifiers exporting bound u
      | '}' :: u => some u
      | _ => none
where
  source (t : Text) : Option (Bool × Text) :=
    let r := skip t
    match keyword? "default" r with
    | some u => some (true, u)
    | none =>
      match literal? r with
      | some u => some (true, u)
      | none => (name? r).map fun u => (false, u)

def fromClause (t : Text) : Option Text := do
  let t ← next? "from" t
  literal? (skip t)

/-- The end of an import: attributes may come before it. -/
def importEnd (t : Text) : Option Text :=
  match (pause true false t).bind (keyword? "with") with
  | some r => do
    let r ← mark? '{' r
    let r ← value self .object r
    finish false r
  | none => finish false t

def importNames (t : Text) : Option Text :=
  match skip t with
  | '*' :: r => do
    let r ← next? "as" r
    name? (skip r)
  | '{' :: r => specifiers false ('{' :: r) r
  | _ => none

def importStatement (whole t : Text) : Option Text :=
  match skip t with
  | '(' :: _ | '.' :: _ | '?' :: _ => expressionStatement self whole
  | r =>
    match literal? r with
    | some u => importEnd self u
    | none => do
      let u ←
        match name? r with
        | some u =>
          match mark? ',' u with
          | some v => importNames v
          | none => some u
        | none => importNames r
      let u ← fromClause u
      importEnd self u

/-- A declaration that may be given out. -/
def exported (t : Text) : Option Text :=
  let r := skip t
  match r with
  | '@' :: _ => do
    let u ← decorators self r r
    let u ← next? "class" u
    classStatement self r u
  | r =>
    match word? r with
    | some ("var", u) | some ("const", u) | some ("let", u) => declaration self u
    | some ("function", u) =>
      if (name? (skip ((mark? '*' u).getD u))).isSome then (self .function u).map (·.2) else none
    | some ("async", u) => do
      let v ← next? "function" u
      if (name? (skip ((mark? '*' v).getD v))).isSome then (self .function v).map (·.2) else none
    | some ("class", u) =>
      if (name? (skip u)).isSome then (self .classRest u).map (·.2) else none
    | _ => none

def exportDefault (t : Text) : Option Text :=
  match exported self t with
  | some r => if goesOn r then valued else some r
  | none => valued
where
  valued : Option Text := (value self (.expression true) t).bind (finish true)

def exportStatement (whole t : Text) : Option Text :=
  let r := skip t
  match r with
  | '*' :: u =>
    match next? "as" u with
    | some v => do
      let (_, v) ← specifiers.source v
      let v ← fromClause v
      finish false v
    | none => do
      let v ← fromClause u
      finish false v
  | '{' :: u => do
    let v ← specifiers true ('{' :: u) u
    match (pause true false v).bind fromClause with
    | some w => finish false w
    | none => finish false v
  | '@' :: _ => exported self r
  | r =>
    match word? r with
    | some ("default", u) => exportDefault self u
    | some ("var", _) | some ("const", _) | some ("let", _) | some ("function", _)
    | some ("async", _) | some ("class", _) => exported self r
    | _ => expressionStatement self whole

/-- Is the word, with this after it, a declaration of changeable names? -/
def declares (t : Text) : Bool :=
  match pause true true t with
  | none => false
  | some r =>
    match r with
    | '[' :: _ | '{' :: _ => true
    | r =>
      match word? r with
      | some (w, _) => !reserved.contains w
      | none => false

/-- A statement that starts with a word; `whole` is the text from that word on. -/
def wordStatement (whole : Text) (w : String) (t : Text) : Option Text :=
  match w with
  | "var" | "const" => declaration self t
  | "let" => if declares t then declaration self t else labelled
  | "function" => functionStatement self whole t
  | "async" =>
    match (pause true true t).bind (keyword? "function") with
    | some r => functionStatement self whole r
    | none => labelled
  | "class" => classStatement self whole t
  | "if" => conditional self t
  | "for" => loop self t
  | "while" | "with" => do
    let t ← parenthesized self t
    statementAfter self t
  | "do" => afterwards self t
  | "switch" => choice self t
  | "try" => attempt self t
  | "return" => handBack self t
  | "throw" => expressionStatement self t
  | "break" | "continue" => jump t
  | "debugger" => finish false t
  | "import" => importStatement self whole t
  | "export" =>
    match pause true true t with
    | some (':' :: r) => statementAfter self r
    | _ => exportStatement self whole t
  | _ => labelled
where
  labelled : Option Text :=
    match pause true true t with
    | some (':' :: r) =>
      if reserved.contains w || w == "await" || w == "yield" || w == "undefined" then none
      else statementAfter self r
    | _ => expressionStatement self whole

def statement (t : Text) : Option Text :=
  let r := skip t
  match r with
  | ';' :: u => some u
  | '{' :: u => braceStatement self r u
  | '@' :: _ => do
    let u ← decorators self r r
    match next? "export" u with
    | some v => exportStatement self r v
    | none => do
      let v ← next? "class" u
      classStatement self r v
  | r =>
    match word? r with
    | some (w, u) => wordStatement self r w u
    | none => expressionStatement self r

/-- Statements up to a closing brace, the next case, or the end. -/
def statements : Text → Text → Option Text
  | [], t => some t
  | _ :: bound, t =>
    let r := skip t
    match r with
    | [] => some []
    | '}' :: _ => some r
    | r =>
      if (keyword? "case" r).isSome || (keyword? "default" r).isSome then some r
      else do
        let u ← statementAfter self r
        statements bound u

def block (t : Text) : Option Text := do
  let (_, t) ← self .statements t
  mark? '}' t

end statements

/-- One step of recognition, for rules that call each other through `self`. -/
def level (self : Self) : Rule → Text → Outcome
  | .statements, t => plain (statements self (' ' :: t) t)
  | .statement, t => plain (statement self t)
  | .block, t => plain (block self t)
  | .expressions ends, t => plain (expressions self ends (' ' :: t) t)
  | .expression ends, t => expression self ends t
  | .operand ends, t => operand self ends t
  | .atom ends, t => atom self ends t
  | .tail ends calls shape, t => tail self ends calls shape t
  | .items close, t => itemsUpTo self close (' ' :: t) [] t
  | .object, t => object self t
  | .function, t => plain (functionRest self t)
  | .classRest, t => plain (classRest self t)
  | .template, t => plain (template self (' ' :: t) t)
  | .element, t => plain (element self t)
  | .children, t => plain (children self (' ' :: t) t)

/-- What a rule recognises within `depth` nested calls. -/
def derive : Nat → Self
  | 0 => fun _ _ => none
  | depth + 1 => level (derive depth)

/-- A bound on the depth of calls that recognising a text takes. -/
def depthFor (t : Text) : Nat := 8 * (t.length + 4)

/-- The text after the line that names an interpreter, if it is the first. -/
def afterInterpreter (t : Text) : Text :=
  match skip t with
  | '#' :: '!' :: r => r.dropWhile (· != '\n')
  | _ => t

/-- Is the text a program? -/
def isProgram (t : Text) : Bool :=
  match derive (depthFor t) .statements (afterInterpreter t) with
  | some (_, r) => (skip r).isEmpty
  | none => false

end Excerpt.JavaScript
