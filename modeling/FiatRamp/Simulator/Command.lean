/-!
# FiatRamp.Simulator.Command

The command line of the simulator.

    [-c FILE] deposit  --amount A [--currency C] [--min A] [--max A] [--authorise-after N]
    [-c FILE] withdraw --amount A [--currency C] [--min A] [--max A] [--balance A] [--fee A]

Every option takes a value and is given at most once.  The value is the next
argument, unless that looks like an option, or stands behind `=`.
`Command.ofArgs` reads the arguments from left to right, and the first of them
that is a mistake or asks for help decides.
-/

namespace FiatRamp.Simulator

/-- Why arguments are no command. -/
inductive Usage where
  /-- They ask for help. -/
  | help
  | mistake
  deriving DecidableEq

/-! ## Arguments -/

/-- What a single argument looks like. -/
inductive Argument where
  /-- `--`: no options follow. -/
  | separator
  /-- `--name` or `--name=value`. -/
  | long (name : String) (value : Option String)
  /-- `-x`, and what stands behind the letter. -/
  | short (letter : Char) (rest : List Char)
  /-- Anything else. -/
  | word (s : String)
  deriving DecidableEq

/-- Recognises an argument by its first characters. -/
def Argument.ofText (s : String) : Argument :=
  match s.toList with
  | ['-', '-'] => .separator
  | '-' :: '-' :: cs =>
    let name := cs.takeWhile (· != '=')
    .long (String.ofList name)
      (if name.length = cs.length then none else some (String.ofList (cs.drop (name.length + 1))))
  | '-' :: c :: cs => .short c cs
  | _ => .word s

/-- An option that takes a value. -/
structure OptionSpec where
  name : String
  letter : Option Char
  /-- The value makes sense. -/
  accepts : String → Bool

/-- The values of options, by name. -/
abbrev Values := List (String × String)

/-- Any value. -/
def OptionSpec.plain (name : String) : OptionSpec := ⟨name, none, fun _ => true⟩

/-- Adds the value of an option, unless it is the second one or makes no sense. -/
def OptionSpec.add (spec : OptionSpec) (value : String) (values : Values) : Except Usage Values :=
  if (values.lookup spec.name).isSome || !spec.accepts value then .error .mistake
  else .ok (values ++ [(spec.name, value)])

/-- The value behind a letter, if it is not the next argument. -/
def attached : List Char → Option String
  | [] => none
  | '=' :: cs => some (String.ofList cs)
  | cs => some (String.ofList cs)

/-- What an argument means where options may stand. -/
inductive Step where
  /-- It is no option. -/
  | word
  /-- No options follow. -/
  | separator
  /-- The arguments are no command. -/
  | stop (usage : Usage)
  /-- An option with its value. -/
  | complete (spec : OptionSpec) (value : String)
  /-- An option whose value is the next argument. -/
  | wanting (spec : OptionSpec)

/-- An option that was found, or not, with the value found with it. -/
def Step.ofOption (spec? : Option OptionSpec) (value? : Option String) : Step :=
  match spec?, value? with
  | none, _ => .stop .mistake
  | some spec, some value => .complete spec value
  | some spec, none => .wanting spec

/-- The meaning of an argument. -/
def Step.ofText (specs : List OptionSpec) (arg : String) : Step :=
  match Argument.ofText arg with
  | .word _ => .word
  | .separator => .separator
  | .long "help" none => .stop .help
  | .long name value => .ofOption (specs.find? (·.name == name)) value
  | .short 'h' _ => .stop .help
  | .short letter rest => .ofOption (specs.find? (·.letter == some letter)) (attached rest)

/-- Reads options up to the first word that is no value, which is given with the
arguments behind it. -/
def readOptions (specs : List OptionSpec) (values : Values) :
    List String → Except Usage (Values × List String)
  | [] => .ok (values, [])
  | arg :: args =>
    match Step.ofText specs arg, args with
    | .word, args => .ok (values, arg :: args)
    | .separator, args => if args.isEmpty then .ok (values, []) else .error .mistake
    | .stop usage, _ => .error usage
    | .complete spec value, args => do readOptions specs (← spec.add value values) args
    | .wanting spec, value :: args =>
      match Step.ofText specs value with
      | .word => do readOptions specs (← spec.add value values) args
      | _ => .error .mistake
    | .wanting _, [] => .error .mistake

/-! ## Commands -/

/-- What both kinds of transfers are told. -/
structure TransferArgs where
  currency : String
  amount : String
  min : String
  max : Option String
  deriving DecidableEq

/-- What to simulate. -/
inductive Scenario where
  /-- The bank offers its authorisation page once the charge was fetched so
  often. -/
  | deposit (authoriseAfter : UInt32)
  | withdraw (balance fee : String)
  deriving DecidableEq

/-- A command. -/
structure Command where
  /-- The configuration file. -/
  config : Option String
  args : TransferArgs
  scenario : Scenario
  deriving DecidableEq

/-- A whole number of 32 bits, which may have a plus sign. -/
def word32? (s : String) : Option UInt32 :=
  let digits := match s.toList with
    | '+' :: cs => cs
    | cs => cs
  if digits.isEmpty || !digits.all Char.isDigit then none
  else
    let n := Nat.ofDigitChars 10 digits 0
    if n < Nat.pow 2 32 then some (.ofNat n) else none

/-- The options before the word for the scenario. -/
def configSpec : OptionSpec := ⟨"config", some 'c', fun value => !value.isEmpty⟩

/-- The options of every scenario. -/
def transferSpecs : List OptionSpec :=
  [.plain "currency", .plain "amount", .plain "min", .plain "max"]

def authoriseSpec : OptionSpec := ⟨"authorise-after", none, fun value => (word32? value).isSome⟩

/-- Reads options with nothing else between them. -/
def readOnly (specs : List OptionSpec) (args : List String) : Except Usage Values := do
  match ← readOptions specs [] args with
  | (values, []) => .ok values
  | _ => .error .mistake

/-- The arguments of a transfer, of which only the amount has to be given. -/
def TransferArgs.ofValues (values : Values) : Except Usage TransferArgs :=
  match values.lookup "amount" with
  | none => .error .mistake
  | some amount => .ok {
      currency := (values.lookup "currency").getD "GBP"
      amount
      min := (values.lookup "min").getD "10"
      max := values.lookup "max" }

/-- The words for scenarios, and the one that asks for help. -/
def commandWords : List String := ["deposit", "withdraw", "help"]

/-- What behind `help` there is help for. -/
def isHelpTopic : List String → Bool
  | [] => true
  | [topic] => commandWords.contains topic
  | ["help", topic] => commandWords.contains topic
  | _ => false

namespace Command

/-- The command some arguments stand for. -/
def ofArgs (args : List String) : Except Usage Command := do
  let (globals, rest) ← readOptions [configSpec] [] args
  let config := globals.lookup "config"
  match rest with
  | "deposit" :: args =>
    let values ← readOnly (transferSpecs ++ [authoriseSpec]) args
    let args ← TransferArgs.ofValues values
    return ⟨config, args, .deposit (((values.lookup "authorise-after").bind word32?).getD 1)⟩
  | "withdraw" :: args =>
    let values ← readOnly (transferSpecs ++ [.plain "balance", .plain "fee"]) args
    let args ← TransferArgs.ofValues values
    return ⟨config, args, .withdraw ((values.lookup "balance").getD "1000")
      ((values.lookup "fee").getD "0")⟩
  | "help" :: topics => .error (if isHelpTopic topics then .help else .mistake)
  | _ => .error .mistake

end Command

end FiatRamp.Simulator
