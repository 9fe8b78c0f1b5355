/-!
# Arguments — what the command line asks for

The command line is a verb and the items after it. An item is a word, a flag or
an option with a file name, and the items may come in any order.

  • The name of an option follows it or is joined to it by an equals sign.
  • Every flag and option may be given once, and exactly one word names the file
    that the verb is about.
  • After `--` everything is a word.
-/

namespace Coprocessor

/-- What the command line asks for. -/
inductive Invocation where
  | run (script : String) (load save : Option String) (lenient strictExit : Bool)
  | dump (snapshot : String)
deriving DecidableEq

/-- One item of the command line. -/
inductive Item where
  | word (text : String)
  | verbose
  | lenient
  | strictExit
  | load (name : String)
  | save (name : String)
deriving DecidableEq

namespace Item

/-- The flag with a given spelling. -/
def flag? (argument : String) : Option Item :=
  if argument = "-v" ∨ argument = "--verbose" then some .verbose
  else if argument = "--lenient" then some .lenient
  else if argument = "--strict-exit" then some .strictExit
  else none

/-- The option with a given spelling. -/
def option? (argument : String) : Option (String → Item) :=
  if argument = "--load" then some .load
  else if argument = "--snapshot" then some .save
  else none

/-- An option with its name behind an equals sign. -/
def joined? (argument : String) : Option Item :=
  let (front, back) := argument.toList.span (· ≠ '=')
  match option? (String.ofList front), back with
  | some make, _ :: c :: name => some (make (String.ofList (c :: name)))
  | _, _ => none

/-- Whether an argument can stand for itself: it is not empty and, but for a lone
    hyphen, does not start with one. -/
def isWord (argument : String) : Bool :=
  argument ≠ "" && (argument = "-" || argument.toList.head? ≠ some '-')

/-- The item that one argument spells by itself. -/
def single? (argument : String) : Option Item :=
  match flag? argument, joined? argument with
  | some item, _ => some item
  | none, some item => some item
  | none, none =>
      if isWord argument then some (.word argument) else none

/-- The items that arguments spell. -/
def ofArguments? : List String → Option (List Item)
  | [] => some []
  | [argument] => if argument = "--" then some [] else (single? argument).map ([·])
  | argument :: name :: rest =>
      if argument = "--" then some (.word name :: rest.map .word)
      else
        match option? argument with
        | some make =>
            if isWord name then (ofArguments? rest).map (make name :: ·) else none
        | none =>
            match single? argument with
            | some item => (ofArguments? (name :: rest)).map (item :: ·)
            | none => none

/-- The text of a word. -/
def word? : Item → Option String
  | .word text => some text
  | _ => none

/-- The file to start from. -/
def load? : Item → Option String
  | .load name => some name
  | _ => none

/-- The file to save to. -/
def save? : Item → Option String
  | .save name => some name
  | _ => none

end Item

namespace Invocation

/-- A run with these items. -/
def run? (items : List Item) : Option Invocation :=
  let loads := items.filterMap Item.load?
  let saves := items.filterMap Item.save?
  let once := loads.length ≤ 1 ∧ saves.length ≤ 1 ∧ items.count .verbose ≤ 1
    ∧ items.count .lenient ≤ 1 ∧ items.count .strictExit ≤ 1
  match items.filterMap Item.word? with
  | [script] =>
      if once then
        some (.run script loads.head? saves.head? (items.contains .lenient)
          (items.contains .strictExit))
      else none
  | _ => none

/-- A description with these items. -/
def dump? (items : List Item) : Option Invocation :=
  match items.filter (· ≠ .verbose) with
  | [.word snapshot] => if items.count .verbose ≤ 1 then some (.dump snapshot) else none
  | _ => none

/-- The invocation that arguments spell after an optional flag. -/
def ofVerb? : List String → Option Invocation
  | "run" :: rest => (Item.ofArguments? rest).bind run?
  | "dump" :: rest => (Item.ofArguments? rest).bind dump?
  | _ => none

/-- The invocation that the arguments of the command line spell. -/
def ofArguments? : List String → Option Invocation
  | "-v" :: rest => ofVerb? rest
  | "--verbose" :: rest => ofVerb? rest
  | arguments => ofVerb? arguments

end Invocation

end Coprocessor
