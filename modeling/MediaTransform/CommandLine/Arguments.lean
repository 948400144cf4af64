import MediaTransform.Text.Split

/-! # The arguments of the command line

* **`Action`**, **`Invocation`** — what the program is asked to do, and with which settings.
* **`Flag`** — an option: its names and what follows it.
* **`Invocation.ofArguments`** — the invocation of arguments, or why there is none. Arguments are
  taken from left to right and the first fault or question decides. -/

namespace MediaTransform

namespace CommandLine

/-! ## (1) Invocations -/

/-- **What the program is asked to do.** -/
inductive Action where
  | serve (host : Option String) (port : Option Nat)
  | parse (url : String) (json : Bool)
  | render (url output : String)
  | checkTools
  | validate
  | version
  deriving DecidableEq, Repr

/-- **An action with the settings that hold for every action.** -/
structure Invocation where
  config : Option String
  storage : Option String
  verbose : Bool
  action : Action
  deriving DecidableEq, Repr

/-- Why arguments make no invocation. -/
inductive Stop where
  | help
  | version
  | misuse
  deriving DecidableEq, Repr

/-! ## (2) Options -/

/-- What follows an option. -/
inductive Operand where
  | nothing
  | text
  /-- A text that is not empty. -/
  | path
  /-- A whole number below 65536. -/
  | port
  deriving DecidableEq, Repr

/-- **An option.** -/
structure Flag where
  name : String
  letter : Option Char
  operand : Operand

/-- The options that hold for every action. -/
def commonFlags : List Flag :=
  [⟨"config", some 'c', .path⟩, ⟨"verbose", some 'v', .nothing⟩, ⟨"storage", none, .path⟩]

/-- The options that were given, with what followed them. -/
abbrev Given := List (String × String)

/-- **A whole number as an operand**, perhaps with a sign. -/
def number? (s : String) : Option Nat :=
  let (negative, digits) := match s.toList with
    | '-' :: cs => (true, cs)
    | '+' :: cs => (false, cs)
    | cs => (false, cs)
  if digits.isEmpty || !digits.all Char.isDigit then none
  else
    let n := digits.foldl (fun n c => n * 10 + (c.toNat - 48)) 0
    if negative && n ≠ 0 then none else some n

/-- The port of an operand. -/
def port? (s : String) : Option Nat := (number? s).filter (· < 65536)

/-- Whether a text may follow an option. -/
def Operand.accepts (o : Operand) (s : String) : Bool :=
  match o with
  | nothing => false
  | text => true
  | path => s != ""
  | port => (port? s).isSome

/-- Whether an argument is an option; a dash alone is none. -/
def isOption (s : String) : Bool := s.toList.head? = some '-' && s != "-"

/-- The options with one more, which must not be there yet. -/
def record (given : Given) (f : Flag) (operand : String) : Except Stop Given :=
  if (given.lookup f.name).isSome then .error .misuse else .ok (given ++ [(f.name, operand)])

/-- **An option with its operand**, which is attached to it or is the next argument. -/
def withOperand (given : Given) (f : Flag) (attached : Option String) (rest : List String) :
    Except Stop (Given × List String) :=
  let take (operand : String) (rest : List String) : Except Stop (Given × List String) :=
    if f.operand.accepts operand then (record given f operand).map (·, rest) else .error .misuse
  match attached, rest with
  | some operand, rest => take operand rest
  | none, operand :: rest => if isOption operand then .error .misuse else take operand rest
  | none, [] => .error .misuse

/-- **An option by its name**, after two dashes. -/
def named (flags : List Flag) (top : Bool) (given : Given) (name : String)
    (attached : Option String) (rest : List String) : Except Stop (Given × List String) :=
  match flags.find? (·.name = name) with
  | some f =>
    if f.operand = .nothing then
      if attached.isSome then .error .misuse else (record given f "").map (·, rest)
    else withOperand given f attached rest
  | none =>
    if attached.isSome then .error .misuse
    else if name = "help" then .error .help
    else if name = "version" ∧ top then .error .version
    else .error .misuse

/-- **Options by their letters**, after one dash. What follows a letter that takes an operand is
the operand, perhaps after an equals sign. -/
def lettered (flags : List Flag) (top : Bool) :
    Given → List Char → List String → Except Stop (Given × List String)
  | given, [], rest => .ok (given, rest)
  | given, c :: more, rest =>
    match flags.find? (·.letter = some c) with
    | some f =>
      if f.operand = .nothing then
        match record given f "" with
        | .ok given => lettered flags top given more rest
        | .error stop => .error stop
      else
        let attached := match more with
          | [] => none
          | '=' :: cs => some (String.ofList cs)
          | cs => some (String.ofList cs)
        withOperand given f attached rest
    | none =>
      if c = 'h' then .error .help
      else if c = 'V' ∧ top then .error .version
      else .error .misuse

/-- The options of one argument. -/
def options (flags : List Flag) (top : Bool) (given : Given) (argument : String)
    (rest : List String) : Except Stop (Given × List String) :=
  match argument.toList with
  | '-' :: '-' :: cs =>
    match Text.splitFirst '=' cs with
    | some (name, operand) =>
      named flags top given (String.ofList name) (some (String.ofList operand)) rest
    | none => named flags top given (String.ofList cs) none rest
  | _ :: cs => lettered flags top given cs rest
  | [] => .error .misuse

/-! ## (3) Actions -/

/-- **A kind of action**: its name, its own options and how many words it takes. -/
structure Form where
  name : String
  flags : List Flag
  words : Nat

/-- All kinds of actions. -/
def forms : List Form :=
  [⟨"serve", [⟨"host", none, .text⟩, ⟨"port", some 'p', .port⟩], 0⟩,
    ⟨"parse", [⟨"json", none, .nothing⟩], 1⟩,
    ⟨"render", [⟨"output", some 'o', .path⟩], 1⟩,
    ⟨"check-tools", [], 0⟩,
    ⟨"validate", [], 0⟩,
    ⟨"version", [], 0⟩]

/-- The argument after which all others are words. -/
def wordsFollow : String := "--"

/-- **The options before the name of an action**, that name and what follows it. -/
def beforeAction : Nat → Given → List String → Except Stop (Given × Form × List String)
  | 0, _, _ => .error .misuse
  | _, _, [] => .error .misuse
  | fuel + 1, given, argument :: rest =>
    if argument = wordsFollow then .error .misuse
    else if isOption argument then
      match options commonFlags true given argument rest with
      | .ok (given, rest) => beforeAction fuel given rest
      | .error stop => .error stop
    else
      match forms.find? (·.name = argument) with
      | some form => .ok (given, form, rest)
      | none =>
        if argument = "help" ∧ rest.length ≤ 1 ∧
            rest.all (fun name => name = "help" || forms.any (·.name = name)) then .error .help
        else .error .misuse

/-- **The options and words of an action.** -/
def afterAction (form : Form) :
    Nat → Given → List String → List String → Except Stop (Given × List String)
  | 0, _, _, _ => .error .misuse
  | _, given, words, [] => .ok (given, words)
  | fuel + 1, given, words, argument :: rest =>
    if argument = wordsFollow then
      if words.length + rest.length ≤ form.words then .ok (given, words ++ rest) else .error .misuse
    else if isOption argument then
      match options (form.flags ++ commonFlags) false given argument rest with
      | .ok (given, rest) => afterAction form fuel given words rest
      | .error stop => .error stop
    else if words.length < form.words then afterAction form fuel given (words ++ [argument]) rest
    else .error .misuse

/-- The action of a form with its options and words; nothing when something is missing. -/
def actionOf (form : Form) (given : Given) (words : List String) : Option Action :=
  match form.name, words with
  | "serve", _ => some (.serve (given.lookup "host") ((given.lookup "port").bind port?))
  | "parse", [url] => some (.parse url (given.lookup "json").isSome)
  | "render", [url] => (given.lookup "output").map (.render url)
  | "check-tools", _ => some .checkTools
  | "validate", _ => some .validate
  | "version", _ => some .version
  | _, _ => none

/-- **The invocation of arguments.** A common option counts more after the name of the action than
before it. -/
def Invocation.ofArguments (arguments : List String) : Except Stop Invocation := do
  let fuel := arguments.length + 1
  let (before, form, rest) ← beforeAction fuel [] arguments
  let (after, words) ← afterAction form fuel [] [] rest
  match actionOf form after words with
  | none => throw .misuse
  | some action =>
    let setting (name : String) : Option String := (after.lookup name).or (before.lookup name)
    return {
      config := setting "config"
      storage := setting "storage"
      verbose := (setting "verbose").isSome
      action := action }

end CommandLine

end MediaTransform
