import SpokenCalculator.Audio.Window

namespace SpokenCalculator

structure Settings where
  policy : WindowPolicy
  maxListenSeconds : Quantity
  fixedWindowSeconds : Quantity
  silenceSeconds : Quantity
  bargeIn : Bool
  pollSeconds : Quantity
  guardSeconds : Quantity
  minSeconds : Quantity
  wakeWords : List String
  greeting : String
  retries : Nat
  spokenPlaces : Int
  historySize : Option Int

namespace Settings

def usualGreeting : String := "Voice calculator ready. Say your calculation."

def usualWakeWords : List String := ["calculator", "calculate"]

def usualFields : List (String × Json) :=
  [("window_policy", .string WindowPolicy.speech.name), ("max_listen_seconds", .number "30"),
   ("fixed_window_seconds", .number "4.0"), ("silence_threshold", .number "2.5"),
   ("barge_in", .flag false), ("barge_in_poll_seconds", .number "0.05"),
   ("barge_in_guard_seconds", .number "0.2"), ("barge_in_min_seconds", .number "0.12"),
   ("wake_words", .list []), ("greeting", .string usualGreeting),
   ("transient_retries", .number "1"), ("spoken_fraction_digits", .number "4"),
   ("history_size", .number "20")]

/-- All settings, with the given ones in place of the usual ones. -/
def fieldsOf (given : Json) : List (String × Json) :=
  usualFields.map fun (name, usual) => (name, (given.member? name).getD usual)

def shownPolicies : String :=
  Json.shownSequence (WindowPolicy.all.map fun policy => Text.quoted policy.name)

def checkPolicy (setting : Json) : Except Failure WindowPolicy :=
  match WindowPolicy.ofSetting? setting with
  | some policy => .ok policy
  | none => .error ⟨.value, s!"window_policy must be one of {shownPolicies}, got {setting.shown}"⟩

/-- The amount that a setting stands for; flags count as one and zero. -/
def amount? : Json → Option Quantity
  | .number numeral => Json.quantity? numeral
  | .flag value => some (.whole (if value then 1 else 0))
  | _ => none

def checkRetries (setting : Json) : Except Failure Nat :=
  match amount? setting with
  | some retries =>
      if retries.lt (.whole 0) then .error ⟨.value, "transient_retries must be >= 0"⟩
      else .ok (retries.truncate.toOption.getD 0).toNat
  | none =>
      .error ⟨.type, "'<' not supported between instances of " ++
        s!"{Text.quoted setting.kindName} and 'int'"⟩

/-- Does a setting count as given? Nothing, zero and what is empty do not. -/
def isGiven : Json → Bool
  | .null => false
  | .flag value => value
  | .number numeral => !((Json.quantity? numeral).any Quantity.isZero)
  | .string value => !value.isEmpty
  | .list items => !items.isEmpty
  | .record members => !members.isEmpty

def amountOf (setting : Json) : Quantity := (amount? setting).getD (.whole 0)

def integer? (setting : Json) : Option Int :=
  (amount? setting).bind fun amount => amount.truncate.toOption

def textOf : Json → String
  | .string value => value
  | _ => ""

def textsOf : Json → List String
  | .list items => items.map textOf
  | _ => []

def ofFields (fields : List (String × Json)) : Except Failure Settings := do
  let field (name : String) : Json := (fields.lookup name).getD .null
  let policy ← checkPolicy (field "window_policy")
  let retries ← checkRetries (field "transient_retries")
  pure
    { policy, retries
      maxListenSeconds := amountOf (field "max_listen_seconds")
      fixedWindowSeconds := amountOf (field "fixed_window_seconds")
      silenceSeconds := amountOf (field "silence_threshold")
      bargeIn := isGiven (field "barge_in")
      pollSeconds := amountOf (field "barge_in_poll_seconds")
      guardSeconds := amountOf (field "barge_in_guard_seconds")
      minSeconds := amountOf (field "barge_in_min_seconds")
      wakeWords := textsOf (field "wake_words")
      greeting := textOf (field "greeting")
      spokenPlaces := (integer? (field "spoken_fraction_digits")).getD 0
      historySize := integer? (field "history_size") }

def listenField : WindowPolicy → String
  | .speech => "max_listen_seconds"
  | .fixed => "fixed_window_seconds"

def listenSeconds (settings : Settings) : Quantity :=
  match settings.policy with
  | .speech => settings.maxListenSeconds
  | .fixed => settings.fixedWindowSeconds

def shownField : String × Json → String
  | ("wake_words", .list items) => Json.shownSequence (Json.shownItems items)
  | (_, value) => value.shown

def show? (given : Json) : Except Failure (List (String × String) × String) := do
  let fields := fieldsOf given
  let settings ← ofFields fields
  let bound := listenField settings.policy
  pure (fields.map fun field => (field.1, shownField field),
    shownField (bound, (fields.lookup bound).getD .null))

end Settings

end SpokenCalculator
