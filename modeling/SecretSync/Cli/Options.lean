/-!
# Options on a command line

A long option stands alone or with its value behind an equals sign; letters of short options may
share one hyphen, and the last of them may have its value right behind it.  Two hyphens end the
options.  A command takes options anywhere; a group of commands takes them only in front of the
first word that is none.
-/

namespace SecretSync.Cli

/-- An option: how it is written, and whether it has a value. -/
structure OptionForm where
  name : String
  /-- Its letter, if it can be written with one. -/
  letter : Option Char
  takesValue : Bool
  deriving DecidableEq, Repr

/-- Why a command line is refused. -/
inductive UsageFault where
  | unknownOption (text : String)
  | missingValue (name : String)
  | unexpectedValue (name : String)
  /-- A value has not the form of its option. -/
  | badValue (name : String)
  | missingArgument (name : String)
  | extraArgument (text : String)
  | unknownCommand (text : String)
  /-- No command is given. -/
  | noCommand
  deriving DecidableEq, Repr

/-- The options of a command line in their order, and the other words. -/
structure Words where
  options : List (String × Option String)
  others : List String
  deriving DecidableEq, Repr

namespace Words

/-- With another word in front. -/
def withOther (word : String) (w : Words) : Words := { w with others := word :: w.others }

/-- Whether an option is given. -/
def has (w : Words) (name : String) : Bool := w.options.any (fun o => o.1 == name)

/-- The value that an option is given last. -/
def value? (w : Words) (name : String) : Option String :=
  (w.options.reverse.find? (fun o => o.1 == name)).bind Prod.snd

/-- The first option given of several. -/
def first? (w : Words) (names : List String) : Option String :=
  (w.options.find? (fun o => names.contains o.1)).map Prod.fst

end Words

/-- Options that share a hyphen, and the one that takes the next word as its value. -/
def lettered (forms : List OptionForm) :
    List Char → Except UsageFault (List (String × Option String) × Option String)
  | [] => .ok ([], none)
  | c :: rest =>
    match forms.find? (fun f => f.letter = some c) with
    | none => .error (.unknownOption (String.ofList ['-', c]))
    | some f =>
      if f.takesValue then
        if rest.isEmpty then .ok ([], some f.name)
        else .ok ([(f.name, some (String.ofList rest))], none)
      else (lettered forms rest).map (fun p => ((f.name, none) :: p.1, p.2))

/-- What a word with a hyphen in front says: options, and the one that takes the next word as its
value. -/
def optionWord (forms : List OptionForm) (word : List Char) :
    Except UsageFault (List (String × Option String) × Option String) :=
  let name := String.ofList (word.takeWhile (· != '='))
  let attached := match word.dropWhile (· != '=') with
    | _ :: value => some (String.ofList value)
    | [] => none
  match forms.find? (fun f => f.name == name) with
  | some f =>
    match f.takesValue, attached with
    | true, none => .ok ([], some f.name)
    | true, some value => .ok ([(f.name, some value)], none)
    | false, none => .ok ([(f.name, none)], none)
    | false, some _ => .error (.unexpectedValue name)
  | none =>
    if word.take 2 = ['-', '-'] then .error (.unknownOption name) else lettered forms word.tail

/-- Tell the options of a command line from its other words; `mixed` if these may stand in front
of options. -/
def readWords (forms : List OptionForm) (mixed : Bool) : List String → Except UsageFault Words
  | [] => .ok ⟨[], []⟩
  | word :: rest =>
    if word == "--" then .ok ⟨[], rest⟩
    else if word.toList.head? = some '-' ∧ word != "-" then
      match optionWord forms word.toList with
      | .error e => .error e
      | .ok (options, none) =>
        (readWords forms mixed rest).map (fun w => { w with options := options ++ w.options })
      | .ok (options, some name) =>
        match rest with
        | [] => .error (.missingValue name)
        | value :: rest =>
          (readWords forms mixed rest).map (fun w =>
            { w with options := options ++ (name, some value) :: w.options })
    else if mixed then (readWords forms mixed rest).map (Words.withOther word)
    else .ok ⟨[], word :: rest⟩

end SecretSync.Cli
