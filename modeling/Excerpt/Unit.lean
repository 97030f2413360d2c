import Excerpt.Source
import Excerpt.Language

/-!
Reading one unit: lines are gathered until the language accepts them, and the first accepted prefix
is the unit. The language sees the line after the prefix, which is read but not gathered; when the
file ends it is asked once more, knowing that.
-/
namespace Excerpt

/-- A judge of candidates that may remember what it was asked. -/
structure Judge (σ : Type) where
  dialect : Dialect
  ask : σ → Text → Evidence → Bool × σ

namespace Judge

variable {σ : Type}

/-- Comments alone are rejected without a question. -/
def decide (j : Judge σ) (s : σ) (code : Text) (e : Evidence) : Bool × σ :=
  if j.dialect.isQuiet code then (false, s) else j.ask s code e

/-- A language as a judge that remembers nothing. -/
def ofLanguage (lang : Language) : Judge PUnit where
  dialect := lang.toDialect
  ask _ code e := (lang.accepts code e, ⟨⟩)

end Judge

/-- How gathering ends. -/
inductive Gathered where
  | unit (code : Text)
  /-- The file ended after that many lines. -/
  | ended (count : Nat)
  | stuck (fault : DecodeFault)

/-- What gathering leaves: its result, the records in order, the feed behind the lines read, and the
judge's memory. -/
structure Gathering (σ : Type) where
  result : Gathered
  records : List Record
  feed : Feed
  memory : σ

namespace Gathering

variable {σ : Type}

def noting (r : Record) (g : Gathering σ) : Gathering σ := { g with records := r :: g.records }

end Gathering

section
variable {σ : Type} (j : Judge σ) (loc : Location)

/-- The end of the file after `count` lines, `code` being all of them. -/
def settle (s : σ) (code : Text) (count : Nat) (feed : Feed) : Gathering σ :=
  let (yes, s) := if code.isEmpty then (false, s) else j.decide s code .atEnd
  if yes then ⟨.unit code, [.completeAtEnd loc count], feed, s⟩
  else ⟨.ended count, [.noUnit loc j.dialect.name], feed, s⟩

/-- Gathers `line` after the `count` lines of `code`. -/
def gatherLine (s : σ) (code : Text) (count : Nat) (ending : Ending) (line : Text) :
    List Text → Gathering σ
  | [] =>
    match ending with
    | .stuck f rest => ⟨.stuck f, [], Feed.pastStuck f rest, s⟩
    | .done =>
      let code := code ++ line
      let (yes, s) := j.decide s code (.ahead [])
      if yes then ⟨.unit code, [.complete loc (count + 1)], ⟨[], .done⟩, s⟩
      else (settle j loc s code (count + 1) ⟨[], .done⟩).noting (.incomplete loc (count + 1))
  | upcoming :: rest =>
    let code := code ++ line
    let (yes, s) := j.decide s code (.ahead upcoming)
    if yes then ⟨.unit code, [.complete loc (count + 1)], ⟨rest, ending⟩, s⟩
    else
      (gatherLine s code (count + 1) ending upcoming rest).noting (.incomplete loc (count + 1))

/-- Gathers a unit from the start of a feed. -/
def gather (s : σ) (feed : Feed) : Gathering σ :=
  match feed.lines, feed.ending with
  | line :: rest, ending => gatherLine j loc s [] 0 ending line rest
  | [], .done => settle j loc s [] 0 feed
  | [], .stuck f rest => ⟨.stuck f, [], Feed.pastStuck f rest, s⟩

end

/-- The outcome of gathering, as an operation's. -/
def Gathered.outcome (loc : Location) : Gathered → Except Fault Text
  | unit code => .ok code
  | ended count => .error (.endOfInput loc.file loc.line count)
  | stuck f => .error (readFault loc.file f)

/-- Reads one unit of a language from an open file. -/
def readUnit (lang : Language) (loc : Location) (h : Handle) : Op Text := do
  let g := gather (Judge.ofLanguage lang) loc ⟨⟩ h.feed
  g.records.forM Op.note
  Op.ofExcept (g.result.outcome loc)

end Excerpt
