import QueryGate.Settings
import QueryGate.Word

set_option relaxedAutoImplicit false
set_option autoImplicit false

/-!
# The command line

Options are written `--name value` or `--name=value`, and flags `--name`. The value of an option is
looked at only when the next option or flag is met, or at the end; so an unknown option wins over a
bad value just before it. No option may be given twice, and nothing else may stand between them.

## Main definitions

* `QueryGate.CommandLine.Fault` — why a command line is refused.
* `QueryGate.CommandLine.options` — the options.
* `QueryGate.CommandLine.read` — the arguments that a command line gives.
-/

namespace QueryGate.CommandLine

/-- Why a command line is refused. -/
inductive Fault
  /-- Something stands there that is no option. -/
  | unknownArgument
  /-- A value is not one that the option takes. -/
  | badValue
  /-- An option has no value, or an empty one where there must be something. -/
  | missingValue
  /-- A flag has a value. -/
  | needlessValue
  /-- An option is given twice. -/
  | repeated
  /-- An explanation of the options is asked for. -/
  | helpWanted
  deriving DecidableEq, Repr

/-- What an option does with its value. -/
inductive Effect
  /-- It sets an argument from a value. -/
  | value (set : String → Arguments → Except Fault Arguments)
  /-- It sets an argument and takes no value. -/
  | flag (set : Arguments → Arguments)
  /-- It asks for an explanation and takes no value. -/
  | help

/-- An option. -/
structure CommandOption where
  /-- The name. -/
  name : String
  /-- What it does. -/
  effect : Effect

/-! ## The options -/

/-- An option whose value is any text. -/
def textOption (name : String) (set : String → Arguments → Arguments) : CommandOption :=
  ⟨name, .value fun v a => .ok (set v a)⟩

/-- An option whose value names a file. -/
def fileOption (name : String) (set : String → Arguments → Arguments) : CommandOption :=
  ⟨name, .value fun v a => if v.isEmpty then .error .missingValue else .ok (set v a)⟩

/-- An option whose value is a natural number of 64 bits. -/
def countOption (name : String) (set : Nat → Arguments → Arguments) : CommandOption :=
  ⟨name, .value fun v a =>
    match Decimal.unsigned? v with
    | some n => if n ≤ Word.maxUnsigned then .ok (set n a) else .error .badValue
    | none => .error .badValue⟩

/-- An option whose value is a natural number of 32 bits, perhaps written with a minus sign when it
is zero. -/
def smallCountOption (name : String) (set : Nat → Arguments → Arguments) : CommandOption :=
  ⟨name, .value fun v a =>
    match Decimal.signed? v with
    | some n => if 0 ≤ n ∧ n < 0x100000000 then .ok (set n.toNat a) else .error .badValue
    | none => .error .badValue⟩

/-- An option whose value is a number of seconds. -/
def secondsOption (name : String) (set : Float → Arguments → Arguments) : CommandOption :=
  ⟨name, .value fun v a =>
    match Decimal.float? v with
    | some x => .ok (set x a)
    | none => .error .badValue⟩

/-- The options. -/
def options : List CommandOption := [
  textOption "bind-addr" fun v a => { a with bindAddress := v },
  fileOption "manifest" fun v a => { a with manifest := v },
  countOption "pool-size" fun v a => { a with poolSize := v },
  secondsOption "pool-acquire-timeout-secs" fun v a => { a with acquireSeconds := v },
  secondsOption "query-timeout-secs" fun v a => { a with querySeconds := v },
  countOption "cache-capacity" fun v a => { a with cacheCapacity := v },
  secondsOption "cache-ttl-secs" fun v a => { a with cacheSeconds := v },
  smallCountOption "breaker-max-failures" fun v a => { a with breakerFailures := v },
  secondsOption "breaker-timeout-secs" fun v a => { a with breakerSeconds := v },
  countOption "default-limit" fun v a => { a with defaultLimit := v },
  countOption "max-limit" fun v a => { a with maxLimit := v },
  textOption "chat-base-url" fun v a => { a with chatBaseUrl := v },
  textOption "chat-api-key" fun v a => { a with chatApiKey := some v },
  textOption "chat-model" fun v a => { a with chatModel := v },
  countOption "chat-max-in-flight" fun v a => { a with chatMaxInFlight := v },
  secondsOption "chat-timeout-secs" fun v a => { a with chatSeconds := v },
  ⟨"log-json", .flag fun a => { a with logJson := true }⟩,
  ⟨"help", .help⟩]

/-! ## Reading -/

/-- What is read so far. -/
structure Reading where
  /-- The arguments. -/
  arguments : Arguments := {}
  /-- The names of the options that are settled. -/
  given : List String := []
  /-- The option that is not settled yet, with its value if that is there. -/
  pending : Option (CommandOption × Option String) := none

namespace Reading

/-- The reading after an option has set its argument. -/
def apply (name : String) (set : Arguments → Except Fault Arguments) (r : Reading) :
    Except Fault Reading := do
  if r.given.contains name then throw .repeated
  return { arguments := ← set r.arguments, given := name :: r.given, pending := none }

/-- The reading after looking at the value of an option. -/
def takeValue (option : CommandOption) (value : String) (r : Reading) : Except Fault Reading :=
  match option.effect with
  | .value set => r.apply option.name (set value)
  | .flag _ | .help => .error .needlessValue

/-- The reading after looking at the value of the option that is not settled yet. -/
def settle (r : Reading) : Except Fault Reading :=
  match r.pending with
  | none => .ok r
  | some (_, none) => .error .missingValue
  | some (option, some value) => r.takeValue option value

/-- The reading after an option with what follows its equals sign, if it has one. -/
def takeOption (option : CommandOption) (value : Option String) (r : Reading) :
    Except Fault Reading :=
  match option.effect, value with
  | .value _, some value => do (← r.settle).takeValue option value
  | .value _, none => do return { (← r.settle) with pending := some (option, none) }
  | _, some _ => .error .needlessValue
  | .flag set, none => do (← r.settle).apply option.name fun a => .ok (set a)
  | .help, none => do
    let _ ← r.settle
    throw .helpWanted

/-- The reading after two hyphens and a word. -/
def takeWord (word : List Char) (r : Reading) : Except Fault Reading :=
  let name := String.ofList (word.takeWhile (· != '='))
  let value :=
    match word.dropWhile (· != '=') with
    | _ :: value => some (String.ofList value)
    | [] => none
  match options.find? (·.name == name) with
  | some option => r.takeOption option value
  | none => .error .unknownArgument

/-- The reading after a word that is no option: the value that is waited for, if one is. -/
def takePlain (word : String) (r : Reading) : Except Fault Reading :=
  match r.pending with
  | some (option, none) => .ok { r with pending := some (option, some word) }
  | _ => .error .unknownArgument

/-- The reading after all words. Two hyphens on their own end the options, and nothing may follow
them. -/
def takeAll (r : Reading) : List String → Except Fault Reading
  | [] => r.settle
  | word :: rest =>
    match word.toList with
    | ['-', '-'] => if rest.isEmpty then r.settle else .error .unknownArgument
    | '-' :: '-' :: option => do (← r.takeWord option).takeAll rest
    | '-' :: 'h' :: _ => r.settle >>= fun _ => .error .helpWanted
    | '-' :: _ :: _ => .error .unknownArgument
    | _ => do (← r.takePlain word).takeAll rest

end Reading

/-- The arguments that the words of a command line give, after the name of the program. -/
def read (words : List String) : Except Fault Arguments :=
  (Reading.takeAll {} words).map Reading.arguments

end QueryGate.CommandLine
