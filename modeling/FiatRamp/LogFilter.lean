import FiatRamp.Text.Blank

/-!
# FiatRamp.LogFilter

Which log lines are kept.

A filter is a list of directives, the most specific one first: `target=level`
is about the lines of a target, a level alone about all others.  The user may
give a filter as text; else the log level of the configuration applies to the
program itself.
-/

namespace FiatRamp

/-- From which level on lines are kept; `off` keeps none. -/
inductive LogLevel where
  | off
  | error
  | warn
  | info
  | debug
  | trace
  deriving DecidableEq

namespace LogLevel

/-- The word for a level. -/
def word : LogLevel → String
  | .off => "off"
  | .error => "error"
  | .warn => "warn"
  | .info => "info"
  | .debug => "debug"
  | .trace => "trace"

/-- Every level; a level may also be given by its place in this list. -/
def all : List LogLevel := [.off, .error, .warn, .info, .debug, .trace]

/-- The level a number stands for, which may have a plus sign. -/
def ofNumber? (cs : List Char) : Option LogLevel :=
  let digits := if cs.head? = some '+' then cs.tail else cs
  if digits.isEmpty || !digits.all Char.isDigit then none
  else all[Nat.ofDigitChars 10 digits 0]?

/-- The level a word, in any case, or a number stands for.  No text at all
stands for `error`. -/
def ofChars? (cs : List Char) : Option LogLevel :=
  if cs.isEmpty then some .error
  else all.find? (fun level => level.word.toList == cs.map Char.toLower) <|> ofNumber? cs

end LogLevel

/-- What is kept of a target, or of all targets without a directive. -/
structure LogDirective where
  target : Option String
  level : LogLevel
  deriving DecidableEq

namespace LogDirective

/-- A character that a target may start with. -/
def isTargetStart (c : Char) : Bool := c.isAlphanum || c == '-' || c == ':' || c == '_'

/-- The directive a text stands for: a level, a target, whose every line is
kept, or both with `=` between them.  Blanks around the text do not decide
where it is cut, but they belong to what is cut out of it. -/
def ofChars? (cs : List Char) : Option LogDirective :=
  let core := trimChars cs
  let name := core.takeWhile (· != '=')
  if !core.head?.any isTargetStart || name.contains '[' then none
  else if name.length = core.length then
    match LogLevel.ofChars? cs with
    | some level => some ⟨none, level⟩
    | none => some ⟨some (String.ofList cs), .trace⟩
  else
    let level := cs.drop (name.length + 1)
    let target := some (String.ofList (cs.take name.length))
    if level.isEmpty then some ⟨target, .trace⟩
    else (LogLevel.ofChars? level).map fun level => ⟨target, level⟩

/-- A directive as text. -/
def toText (d : LogDirective) : String :=
  match d.target with
  | some target => target ++ "=" ++ d.level.word
  | none => d.level.word

/-- One directive stands before another: the one with the longer target, then
the one whose target is later in the alphabet; the one without a target last. -/
def precedes (a b : LogDirective) : Bool :=
  match a.target, b.target with
  | none, _ => false
  | some _, none => true
  | some s, some t => t.utf8ByteSize < s.utf8ByteSize || (s.utf8ByteSize == t.utf8ByteSize && t < s)

end LogDirective

/-- The directives of a filter, in order, at most one for each target. -/
structure LogFilter where
  directives : List LogDirective
  deriving DecidableEq

namespace LogFilter

/-- Puts a directive in its place, instead of any other for its target. -/
def insert (d : LogDirective) : List LogDirective → List LogDirective
  | [] => [d]
  | other :: rest =>
    if other.target = d.target then d :: rest
    else if d.precedes other then d :: other :: rest
    else other :: insert d rest

/-- The filter of some directives, of which later ones win.  Without any, errors
are kept. -/
def ofDirectives (directives : List LogDirective) : LogFilter :=
  if directives.isEmpty then ⟨[⟨none, .error⟩]⟩
  else ⟨directives.foldl (fun sorted d => insert d sorted) []⟩

/-- The directives of a text, with commas between them. -/
def parts (s : String) : List (List Char) :=
  (s.toList.splitOn ',').filter (!·.isEmpty)

/-- The filter a text stands for, if all of it makes sense. -/
def ofText? (s : String) : Option LogFilter :=
  ((parts s).mapM LogDirective.ofChars?).map ofDirectives

/-- The filter of the directives in a text that make sense. -/
def ofTextLossy (s : String) : LogFilter :=
  ofDirectives ((parts s).filterMap LogDirective.ofChars?)

/-- The target of the program's own lines. -/
def ownTarget : String := "tx_engine"

/-- The filter that applies: the one the user gave, if it makes sense, else the
configured level for the program's own lines. -/
def choose (level : String) (given : Option String) : LogFilter :=
  match given.bind ofText? with
  | some filter => filter
  | none => ofTextLossy (ownTarget ++ "=" ++ level.toLower)

/-- A filter as text. -/
def toText (f : LogFilter) : String := ",".intercalate (f.directives.map LogDirective.toText)

end LogFilter

end FiatRamp
