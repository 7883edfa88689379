import LineShell.Machine.Script.Command
/-!
# Variables

The variables of a script. A variable can be handed down to the programs that a script launches, and
it can be fixed. Some variables are there from the start, and keep their properties when they lose
their value.
-/

namespace LineShell.Script

/-- A variable. It can have properties before it has a value. -/
structure Variable where
  value : Option Bytes
  /-- Whether it is handed down to programs. -/
  exported : Bool
  /-- Whether it must not be changed. -/
  fixed : Bool

/-- The variables of a script by name, in the order in which they came. -/
abbrev Variables := List (Bytes × Variable)

namespace Variables

def value? (table : Variables) (name : Bytes) : Option Bytes :=
  (table.lookup name).bind Variable.value

def isFixed (table : Variables) (name : Bytes) : Bool :=
  ((table.lookup name).map Variable.fixed).getD false

/-- Makes a variable what it is to be. One that is there keeps its place. -/
def put (table : Variables) (name : Bytes) (held : Variable) : Variables :=
  if table.any fun entry => entry.1 == name then
    table.map fun entry => if entry.1 = name then (name, held) else entry
  else table ++ [(name, held)]

/-- Changes a variable, or a new one without a value and properties. -/
def change (table : Variables) (name : Bytes) (change : Variable → Variable) : Variables :=
  table.put name (change ((table.lookup name).getD ⟨none, false, false⟩))

def set (table : Variables) (name value : Bytes) : Variables :=
  table.change name fun held => { held with value := some value }

/-- The names of the variables that are never taken away. -/
def permanent : List Bytes :=
  ["IFS", "MAIL", "MAILPATH", "PATH", "PS1", "PS2", "PS4", "OPTIND"].map Bytes.ofString

/-- Takes a variable away. A permanent one only loses its value. -/
def remove (table : Variables) (name : Bytes) : Variables :=
  if permanent.contains name then
    table.change name fun held => { held with value := none }
  else table.filter fun entry => entry.1 != name

def restore (table : Variables) (name : Bytes) : Option Variable → Variables
  | some former => table.put name former
  | none => table.filter fun entry => entry.1 != name

def groupCount : Nat := 39

def groupOf (name : Bytes) : Nat :=
  name.foldl (fun total byte => total + byte.toNat) ((name.headD 0).toNat * 16) % groupCount

/-- The environment for the programs that a script launches. It goes group by group. -/
def environment (table : Variables) : List (Bytes × Bytes) :=
  let exported := table.filterMap fun entry =>
    if entry.2.exported then entry.2.value.map fun value => (entry.1, value) else none
  (List.range groupCount).flatMap fun group => exported.filter fun entry => groupOf entry.1 == group

/-- The variables in the order of their names. -/
def sorted (table : Variables) : Variables :=
  table.mergeSort fun a b => decide (a.1 ≤ b.1)

def standardPath : Bytes :=
  Bytes.ofString "/usr/local/sbin:/usr/local/bin:/usr/sbin:/usr/bin:/sbin:/bin"

/-- The variables of a script at its start, but for those that an environment gives. -/
def initial : Variables :=
  [("IFS", " \t\n"), ("PATH", ""), ("PS1", "# "), ("PS2", "> "), ("PS4", "+ "), ("OPTIND", "1")].map
    fun (name, value) =>
      let value := if name = "PATH" then standardPath else Bytes.ofString value
      (Bytes.ofString name, ⟨some value, false, false⟩)

/-- The variables that an environment gives to a script. How fields are separated and where options
are read are the script's own. -/
def ofEnvironment (environment : List (Bytes × Bytes)) : Variables :=
  let own := [Bytes.ofString "IFS", Bytes.ofString "OPTIND"]
  environment.foldl
    (fun table (name, value) =>
      if isName name then
        table.change name fun held =>
          ⟨if own.contains name then held.value else some value, true, false⟩
      else table)
    initial

/-- A text in quotes, as a script can read it again. Quotation marks in it stand in the other kind
of quotes. -/
def quoted (text : Bytes) : Bytes :=
  go (text.length + 1) text
where
  go : Nat → Bytes → Bytes
    | 0, _ => []
    | steps + 1, text =>
      let rest := text.dropWhile (· != 39)
      let marks := rest.takeWhile (· == 39)
      let rest := rest.dropWhile (· == 39)
      [39] ++ text.takeWhile (· != 39) ++ [39] ++ (if marks.isEmpty then [] else [34] ++ marks ++ [34])
        ++ (if rest.isEmpty then [] else go steps rest)

def shown (table : Variables) (head : Bytes) : Bytes :=
  table.sorted.flatMap fun (name, held) =>
    let value := (held.value.map fun value => 61 :: quoted value).getD []
    head ++ name ++ value ++ [10]

end Variables

end LineShell.Script
