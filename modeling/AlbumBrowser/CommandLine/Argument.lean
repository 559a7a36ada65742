import AlbumBrowser.CommandLine.Value
import AlbumBrowser.Criteria
import AlbumBrowser.Zone

/-!
The arguments of the command line. Options may stand before and behind the positional arguments, and a
value may follow its option or be attached to it; two dashes end the options. A value is read as soon as its
option has it. What is not understood is refused as a whole, unless an offset has stopped the reading before.
-/

namespace AlbumBrowser.CommandLine

inductive Key where
  | timeout
  | utcOffset
  | date
  | start
  | stop
  | keyword
  | excludeUndescribed
  | folder
  | next
  | prev
  | port
  deriving DecidableEq, Repr

namespace Key

def long : Key → String
  | timeout => "timeout"
  | utcOffset => "utc-offset"
  | date => "date"
  | start => "start"
  | stop => "end"
  | keyword => "keyword"
  | excludeUndescribed => "exclude-without-description"
  | folder => "folder"
  | next => "next"
  | prev => "prev"
  | port => "port"

def short? : Key → Option Char
  | keyword => some 'k'
  | folder => some 'f'
  | port => some 'p'
  | _ => none

/-- Whether the option is followed by a value. -/
def takesValue (k : Key) : Bool := k ≠ excludeUndescribed

/-- Whether that value may begin with a dash. -/
def allowsDash (k : Key) : Bool := k = utcOffset

/-- The options of every command. -/
def shared : List Key := [timeout, utcOffset]

end Key

/-- Why a command line asks for nothing. -/
inductive Stop where
  | refused
  /-- The reckoning of an offset leaves the words that it is made in. -/
  | overflow
  deriving DecidableEq, Repr

/-- What has been read, if it has, and else a refusal. -/
def orRefuse {α : Type} : Option α → Except Stop α
  | some x => .ok x
  | none => .error .refused

/-- A limit on the time that a load takes, in seconds. -/
def timeout? : String → Option Nat := number? false (UInt64.size - 1)

/-- A number of steps. -/
def steps? : String → Option Nat := number? true (UInt32.size - 1)

def port? : String → Option Nat := number? true (UInt16.size - 1)

/-- The zone of an offset. -/
def offset (text : String) : Except Stop Zone :=
  match Zone.parse text with
  | some parsed => orRefuse parsed.toOption
  | none => .error .overflow

/-- Whether the value of an option can be read. -/
def Key.check (value : String) : Key → Except Stop Unit
  | timeout => discard (orRefuse (timeout? value))
  | utcOffset => discard (offset value)
  | date => discard (orRefuse (CommandLine.date value).toOption)
  | start | stop => discard (orRefuse (clock value).toOption)
  | next | prev => discard (orRefuse (steps? value))
  | port => discard (orRefuse (port? value))
  | keyword | excludeUndescribed | folder => .ok ()

/-- Arguments taken apart: options with their values, and the others in their order. -/
structure Arguments where
  options : List (Key × String) := []
  positional : List String := []
  deriving Repr

namespace Arguments

/-- Adds an option whose value can be read, unless it was given before. -/
def addOption (a : Arguments) (k : Key) (value : String) : Except Stop Arguments :=
  if a.options.any (·.1 = k) then .error .refused
  else (k.check value).map fun _ => { a with options := a.options ++ [(k, value)] }

def addPositional (a : Arguments) (value : String) : Arguments :=
  { a with positional := a.positional ++ [value] }

def get? (a : Arguments) (k : Key) : Option String := a.options.lookup k

def has (a : Arguments) (k : Key) : Bool := (a.get? k).isSome

end Arguments

/-- What an argument is: an option with or without an attached value, the end of the options, or a
positional argument. A single dash is positional. -/
inductive Token where
  | option (k : Key) (attached : Option String)
  | endOfOptions
  | positional
  | unknown
  deriving DecidableEq, Repr

/-- What an argument is among the options that are known. -/
def Token.of (known : List Key) (argument : String) : Token :=
  match argument.toList with
  | ['-', '-'] => endOfOptions
  | '-' :: '-' :: name =>
    let (name, attached) := match Text.cut? '=' name with
      | some (name, value) => (name, some (String.ofList value))
      | none => (name, none)
    match known.find? (·.long.toList = name) with
    | some k => option k attached
    | none => unknown
  | '-' :: letter :: rest =>
    match known.find? (·.short? = some letter) with
    | some k => option k (match rest with
      | [] => none
      | '=' :: value => some (String.ofList value)
      | value => some (String.ofList value))
    | none => unknown
  | _ => positional

/-- Whether an argument may be the value of the option in front of it. -/
def mayFollow (k : Key) (argument : String) : Bool :=
  k.allowsDash || argument = "-" || argument.toList.head? ≠ some '-'

/-- Takes arguments apart up to the first positional one, if `stopAtPositional`, which is then left with
all behind it. -/
def takeApart (known : List Key) (stopAtPositional : Bool) (a : Arguments) :
    List String → Except Stop (Arguments × List String)
  | [] => .ok (a, [])
  | argument :: rest =>
    match Token.of known argument with
    | .endOfOptions => if stopAtPositional then .error .refused else .ok (rest.foldl Arguments.addPositional a, [])
    | .unknown => .error .refused
    | .positional =>
      if stopAtPositional then .ok (a, argument :: rest)
      else takeApart known stopAtPositional (a.addPositional argument) rest
    | .option k attached =>
      match k.takesValue, attached with
      | false, none => do takeApart known stopAtPositional (← a.addOption k "") rest
      | false, some _ => .error .refused
      | true, some value => do takeApart known stopAtPositional (← a.addOption k value) rest
      | true, none =>
        match rest with
        | value :: rest =>
          if mayFollow k value then do takeApart known stopAtPositional (← a.addOption k value) rest
          else .error .refused
        | [] => .error .refused

inductive Command where
  /-- List the albums that meet criteria. -/
  | list (source : String) (criteria : Criteria)
  /-- Show one album, at a folder and that many images on. -/
  | album (source id : String) (folder : Option String) (steps : Int)
  /-- Serve the viewer on a port. -/
  | serve (source : String) (port : Nat)
  deriving DecidableEq, Repr

structure Invocation where
  command : Command
  /-- Seconds that a load may take. -/
  timeout : Option Nat
  zone : Option Zone
  deriving Repr

/-- The zone that was asked for, or else the machine's. -/
def Invocation.zoneOr (machine : ViewerZone) (i : Invocation) : ViewerZone := (i.zone.map .fixed).getD machine

/-- An optional value through a reader that may refuse it. -/
def through {α : Type} (read : String → Option α) : Option String → Option (Option α)
  | none => some none
  | some text => (read text).map some

/-- The options of a command of their own, by its name. -/
def ownKeys? (name : String) : Option (List Key) :=
  if name = "list" then some [.date, .start, .stop, .keyword, .excludeUndescribed]
  else if name = "show" then some [.folder, .next, .prev]
  else if name = "serve" then some [.port]
  else none

/-- The criteria among the options. -/
def criteria? (a : Arguments) : Option Criteria := do
  let date ← through (fun s => (CommandLine.date s).toOption) (a.get? .date)
  let start ← through (fun s => (clock s).toOption) (a.get? .start)
  let stop ← through (fun s => (clock s).toOption) (a.get? .stop)
  return {
    date := date.getD ""
    startTime := start.getD ""
    endTime := stop.getD ""
    keyword := (a.get? .keyword).getD ""
    includeUndescribed := !a.has .excludeUndescribed }

/-- The command with a name and arguments; a source that is not given may come from outside. -/
def command? (defaultSource : Option String) (name : String) (a : Arguments) : Option Command := do
  if name = "list" then
    let criteria ← criteria? a
    match a.positional, defaultSource with
    | [source], _ => return .list source criteria
    | [], some source => return .list source criteria
    | _, _ => none
  else if name = "show" then
    let next ← through steps? (a.get? .next)
    let prev ← through steps? (a.get? .prev)
    match a.positional with
    | [source, id] =>
      return .album source id (a.get? .folder) ((next.getD 0 : Nat) - (prev.getD 0 : Nat) : Int)
    | _ => none
  else
    let port ← through port? (a.get? .port)
    match a.positional, defaultSource with
    | [source], _ => return .serve source (port.getD 8080)
    | [], some source => return .serve source (port.getD 8080)
    | _, _ => none

/-- What a command line asks for. An option of every command may also stand in front of the command's
name; the one behind it wins. -/
def Invocation.parse (defaultSource : Option String) (arguments : List String) : Except Stop Invocation := do
  let (outer, rest) ← takeApart Key.shared true {} arguments
  match rest with
  | [] => .error .refused
  | name :: rest =>
    let own ← orRefuse (ownKeys? name)
    let (inner, _) ← takeApart (own ++ Key.shared) false {} rest
    let shared (k : Key) : List String := ([inner, outer].filterMap (·.get? k))
    let timeouts ← (shared .timeout).mapM fun s => orRefuse (timeout? s)
    let zones ← (shared .utcOffset).mapM offset
    let command ← orRefuse (command? defaultSource name inner)
    return { command := command, timeout := timeouts.head?, zone := zones.head? }

end AlbumBrowser.CommandLine
