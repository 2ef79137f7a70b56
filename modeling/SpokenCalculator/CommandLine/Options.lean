import SpokenCalculator.Assistant.Settings
import SpokenCalculator.Decimal.Notation
import SpokenCalculator.ResourcePath

/-!
# Options of the command line

An argument that begins with a hyphen is an option, possibly shortened and with
its value behind an equals sign, unless it looks like a negative number or holds
a blank. Every other argument can only be the value of the option before it.
Behind two hyphens there are no options. Shortened options that could mean
several are found out before anything else.
-/

namespace SpokenCalculator

inductive OptionKind where
  | help
  | flag
  | text
  | choice (values : List String)
  | real
  | integer

structure OptionSpec where
  names : List String
  destination : String
  kind : OptionKind
  usual : Json

namespace OptionSpec

def label (spec : OptionSpec) : String := "/".intercalate spec.names

def takesValue (spec : OptionSpec) : Bool :=
  match spec.kind with
  | .help | .flag => false
  | _ => true

end OptionSpec

/-- Why arguments cannot be used, or that help was asked for. -/
inductive UsageFault where
  | help
  | ambiguous (argument : String) (candidates : List String)
  | expectedValue (option : String)
  | ignoredValue (option value : String)
  | malformed (option kind value : String)
  | notAChoice (option value : String) (choices : List String)
  | unrecognized (arguments : List String)
  deriving DecidableEq

namespace UsageFault

def ofOption (option problem : String) : String := s!"argument {option}: {problem}"

def withoutBlankEnd (message : String) : String :=
  String.ofList (message.toList.reverse.dropWhile Text.isBlank).reverse

def message : UsageFault → String
  | .help => ""
  | .ambiguous argument candidates =>
      s!"ambiguous option: {argument} could match " ++ ", ".intercalate candidates
  | .expectedValue option => ofOption option "expected one argument"
  | .ignoredValue option value =>
      ofOption option s!"ignored explicit argument {Text.quoted value}"
  | .malformed option kind value => ofOption option s!"invalid {kind} value: {Text.quoted value}"
  | .notAChoice option value choices =>
      let listed := ", ".intercalate (choices.map Text.quoted)
      ofOption option s!"invalid choice: {Text.quoted value} (choose from {listed})"
  | .unrecognized arguments =>
      withoutBlankEnd ("unrecognized arguments: " ++ " ".intercalate arguments)

end UsageFault

/-- The value of an option in the same argument. Right behind the letter of an
option it may consist of letters of further options. -/
structure AttachedValue where
  text : List Char
  behindLetter : Bool

inductive Argument where
  | plain (text : String)
  | option (spec : OptionSpec) (attached : Option AttachedValue)
  | unknown (text : String)

namespace CommandLine

def modelDirectory : String := "vosk-model-small-en-us"

def logLevels : List String := ["DEBUG", "INFO", "WARNING", "ERROR"]

def specs (directory : String) : List OptionSpec :=
  [⟨["-h", "--help"], "help", .help, .null⟩,
   ⟨["--model"], "model", .text, .string (joinPath directory modelDirectory)⟩,
   ⟨["--window"], "window", .choice (WindowPolicy.all.map WindowPolicy.name),
    .string WindowPolicy.speech.name⟩,
   ⟨["--max-listen"], "max_listen", .real, .number "30"⟩,
   ⟨["--fixed-window"], "fixed_window", .real, .number "4.0"⟩,
   ⟨["--silence"], "silence", .real, .number "2.5"⟩,
   ⟨["--volume-threshold"], "volume_threshold", .real, .number "500"⟩,
   ⟨["--device"], "device", .text, .null⟩,
   ⟨["--barge-in"], "barge_in", .flag, .flag false⟩,
   ⟨["--require-wake-word"], "require_wake_word", .flag, .flag false⟩,
   ⟨["--no-greeting"], "no_greeting", .flag, .flag false⟩,
   ⟨["--rate"], "rate", .integer, .null⟩,
   ⟨["--log-level"], "log_level", .choice logLevels, .string "INFO"⟩,
   ⟨["--log-file"], "log_file", .text, .null⟩]

def namesOf (specs : List OptionSpec) : List (String × OptionSpec) :=
  specs.flatMap fun spec => spec.names.map fun name => (name, spec)

def splitValue (argument : List Char) : List Char × Option (List Char) :=
  match argument.dropWhile (· ≠ '=') with
  | [] => (argument, none)
  | _ :: value => (argument.takeWhile (· ≠ '='), some value)

def valueBehindSign (value : Option (List Char)) : Option AttachedValue :=
  value.map fun text => ⟨text, false⟩

/-- The options that an argument may mean that is no name of an option. A single
hyphen and a letter may have a value right behind them. -/
def candidates (names : List (String × OptionSpec)) (argument : List Char) :
    List (String × OptionSpec × Option AttachedValue) :=
  match argument with
  | '-' :: '-' :: _ =>
      let (start, value) := splitValue argument
      (names.filter fun (name, _) => start.isPrefixOf name.toList).map
        fun (name, spec) => (name, spec, valueBehindSign value)
  | _ =>
      names.filterMap fun (name, spec) =>
        if name.toList == argument.take 2 then some (name, spec, some ⟨argument.drop 2, true⟩)
        else if argument.isPrefixOf name.toList then some (name, spec, none)
        else none

/-- Does an argument look like a negative number? A line feed may end it. -/
def looksNegative : List Char → Bool
  | '-' :: rest =>
      let digits := if rest.getLast? == some '\n' then rest.dropLast else rest
      let (whole, behind) := Decimal.spanDigits digits
      match behind with
      | [] => !whole.isEmpty
      | '.' :: fraction => !fraction.isEmpty && fraction.all Text.isDecimalDigit
      | _ => false
  | _ => false

def classify (names : List (String × OptionSpec)) (argument : String) :
    Except UsageFault Argument :=
  let characters := argument.toList
  let (start, value) := splitValue characters
  if characters.head? ≠ some '-' then .ok (.plain argument)
  else
    match names.lookup argument, names.lookup (String.ofList start) with
    | some spec, _ => .ok (.option spec none)
    | none, some spec => .ok (.option spec (valueBehindSign value))
    | none, none =>
        if characters.length = 1 then .ok (.plain argument)
        else
          match candidates names characters with
          | [(_, spec, attached)] => .ok (.option spec attached)
          | [] =>
              if looksNegative characters || characters.contains ' ' then .ok (.plain argument)
              else .ok (.unknown argument)
          | several => .error (.ambiguous argument (several.map Prod.fst))

/-- Classify all arguments. From two hyphens on, all are plain and none can be a
value of an option before them. -/
def classifyAll (names : List (String × OptionSpec)) :
    List String → Except UsageFault (List Argument)
  | [] => .ok []
  | "--" :: rest => .ok (.unknown "--" :: rest.map .plain)
  | argument :: rest => do
      let first ← classify names argument
      let others ← classifyAll names rest
      pure (first :: others)

def readValue (spec : OptionSpec) (text : String) : Except UsageFault Json :=
  match spec.kind with
  | .choice values =>
      if values.contains text then .ok (.string text)
      else .error (.notAChoice spec.label text values)
  | .real =>
      match Numeral.readReal? text with
      | some value => .ok (.number value.text)
      | none => .error (.malformed spec.label "float" text)
  | .integer =>
      match Numeral.readInteger text with
      | .ok value => .ok (.number (toString value))
      | .error _ => .error (.malformed spec.label "int" text)
  | _ => .ok (.string text)

/-- Letters behind the one for help are options too as long as they ask for it
again. Only a hyphen or an equals sign behind them makes a value, which help does
not take. -/
def helpWith (label : String) : List Char → UsageFault
  | 'h' :: '=' :: value => .ignoredValue label (String.ofList value)
  | 'h' :: rest => helpWith label rest
  | '-' :: rest => .ignoredValue label (String.ofList ('-' :: rest))
  | _ => .help

/-- Values by destination, the last one first, and arguments that were not used,
also the last one first. -/
structure Parsed where
  values : List (String × Json)
  unused : List String

def Parsed.put (parsed : Parsed) (spec : OptionSpec) (value : Json) : Parsed :=
  { parsed with values := (spec.destination, value) :: parsed.values }

def Parsed.skip (parsed : Parsed) (argument : String) : Parsed :=
  { parsed with unused := argument :: parsed.unused }

def takeAttached (parsed : Parsed) (spec : OptionSpec) (attached : AttachedValue) :
    Except UsageFault Parsed :=
  if spec.takesValue then
    (readValue spec (String.ofList attached.text)).map (parsed.put spec)
  else if attached.behindLetter then .error (helpWith spec.label attached.text)
  else .error (.ignoredValue spec.label (String.ofList attached.text))

def takeAlone (parsed : Parsed) (spec : OptionSpec) : Except UsageFault Parsed :=
  match spec.kind with
  | .help => .error .help
  | .flag => .ok (parsed.put spec (.flag true))
  | _ => .error (.expectedValue spec.label)

def consume (parsed : Parsed) : List Argument → Except UsageFault Parsed
  | [] => .ok parsed
  | .plain text :: rest => consume (parsed.skip text) rest
  | .unknown text :: rest => consume (parsed.skip text) rest
  | .option spec (some attached) :: rest =>
      match takeAttached parsed spec attached with
      | .ok parsed => consume parsed rest
      | .error fault => .error fault
  | .option spec none :: .plain text :: rest =>
      if spec.takesValue then
        match readValue spec text with
        | .ok value => consume (parsed.put spec value) rest
        | .error fault => .error fault
      else
        match takeAlone parsed spec with
        | .ok parsed => consume parsed (.plain text :: rest)
        | .error fault => .error fault
  | .option spec none :: rest =>
      match takeAlone parsed spec with
      | .ok parsed => consume parsed rest
      | .error fault => .error fault

/-- The value of every option: the last one given, or the usual one. -/
def valuesOf (specs : List OptionSpec) (arguments : List Argument) :
    Except UsageFault (List (String × Json)) := do
  let parsed ← consume ⟨[], []⟩ arguments
  if !parsed.unused.isEmpty then throw (.unrecognized parsed.unused.reverse)
  pure ((specs.filter fun spec => spec.destination != "help").map fun spec =>
    (spec.destination, (parsed.values.lookup spec.destination).getD spec.usual))

def parse (directory : String) (arguments : List String) :
    Except UsageFault (List (String × Json)) := do
  let specs := specs directory
  valuesOf specs (← classifyAll (namesOf specs) arguments)

end CommandLine

end SpokenCalculator
