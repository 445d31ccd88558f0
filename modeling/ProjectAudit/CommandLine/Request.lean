import ProjectAudit.Catalog.Suite

/-!
# Arguments of the command line

The arguments are read from left to right.  A request for help or for the version is granted as
soon as it is reached; an argument that cannot be accepted ends the reading without a request.
-/

namespace ProjectAudit.CommandLine

inductive Format where
  | text
  | json
  deriving DecidableEq

structure Options where
  root : Option String
  format : Option Format
  /-- the names of the suites, as often as they are given -/
  suites : List String
  list : Bool
  verbose : Bool
  deriving DecidableEq

def Options.initial : Options := ⟨none, none, [], false, false⟩

inductive Request where
  | help
  | version
  | audit (options : Options)
  deriving DecidableEq

/-! ## single options -/

inductive ValueOption where
  | root
  | format
  | suite

def ValueOption.ofName? (name : List Char) : Option ValueOption :=
  if name = "root-dir".toList then some .root
  else if name = "format".toList then some .format
  else if name = "suite".toList then some .suite
  else none

/-- nothing but a suite may be given twice, and no value may be empty -/
def Options.set (o : Options) (value : String) : ValueOption → Option Options
  | .root => if o.root.isNone && value ≠ "" then some { o with root := some value } else none
  | .format =>
    if o.format.isSome then none
    else if value = "text" then some { o with format := some .text }
    else if value = "json" then some { o with format := some .json }
    else none
  | .suite =>
    if (Suite.ofName? value).isSome then some { o with suites := o.suites ++ [value] }
    else none

def Options.setList (o : Options) : Option Options :=
  if o.list then none else some { o with list := true }

def Options.setVerbose (o : Options) : Option Options :=
  if o.verbose then none else some { o with verbose := true }

/-! ## arguments -/

/-- what one argument leads to: reading goes on, or it is done -/
inductive Reading where
  | more (options : Options)
  | done (request : Request)

/-- the letters after a single dash -/
def readLetters (o : Options) : List Char → Option Reading
  | [] => some (.more o)
  | 'v' :: letters => o.setVerbose.bind (readLetters · letters)
  | 'h' :: _ => some (.done .help)
  | 'V' :: _ => some (.done .version)
  | _ => none

/-- an option without a value -/
def readFlag (o : Options) (name : List Char) : Option Reading :=
  if name = "help".toList then some (.done .help)
  else if name = "version".toList then some (.done .version)
  else if name = "list".toList then o.setList.map .more
  else if name = "verbose".toList then o.setVerbose.map .more
  else none

/-- a dash alone may be a value -/
def canBeValue (arg : String) : Bool := arg = "-" || !(['-'].isPrefixOf arg.toList)

/-- the name of a long option, and its value if one is attached -/
def splitValue (option : List Char) : List Char × Option String :=
  match option.dropWhile (· ≠ '=') with
  | [] => (option, none)
  | _ :: value => (option.takeWhile (· ≠ '='), some (.ofList value))

def parseFrom (o : Options) : List String → Option Request
  | [] => some (.audit o)
  | arg :: args =>
    match arg.toList with
    | ['-', '-'] => if args.isEmpty then some (.audit o) else none
    | '-' :: '-' :: option =>
      match splitValue option with
      | (name, some value) =>
        ((ValueOption.ofName? name).bind (o.set value)).bind (parseFrom · args)
      | (name, none) =>
        match ValueOption.ofName? name with
        | some valueOption =>
          match args with
          | [] => none
          | value :: args =>
            if canBeValue value then (o.set value valueOption).bind (parseFrom · args) else none
        | none =>
          match readFlag o name with
          | some (.more o) => parseFrom o args
          | some (.done request) => some request
          | none => none
    | '-' :: letter :: letters =>
      match readLetters o (letter :: letters) with
      | some (.more o) => parseFrom o args
      | some (.done request) => some request
      | none => none
    | _ => none

/-- none where an argument is unknown, repeated, out of place or without a proper value -/
def parse? (args : List String) : Option Request := parseFrom .initial args

end ProjectAudit.CommandLine
